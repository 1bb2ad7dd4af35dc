/-
What a variable passes on.

The text of a variable is taken as a flag, a number or a float where it
spells one, and it is written out again where a text is wanted. So it
comes out as it went in exactly where it is spelt the way it would be
written (`shown_eq_iff`). A number has many other spellings, with zeros
in front or a plus, and they all come out as one (`shown_spelling`).

The quoted string of a file comes out as it is, whatever it spells. A
credential is passed on either way (`credential_arrives`), and nothing
reports the difference.
-/
import FileDepot.Proofs.Overriding
import FileDepot.Proofs.Settings

namespace FileDepot

-- ============================================================ numbers

namespace Text

/-- A character of a spelt number. -/
def IsNumeral (c : Char) : Prop := c.isDigit = true ∨ c = '+' ∨ c = '-'

instance (c : Char) : Decidable (IsNumeral c) :=
  inferInstanceAs (Decidable (_ ∨ _))

/-- Such a character is not changed in lower case. -/
theorem IsNumeral.plain {c : Char} (h : IsNumeral c) :
    c.toNat < 0x80 ∧ asciiLower c = c := by
  obtain h | rfl | rfl := h
  · simp only [Char.isDigit, Bool.and_eq_true, decide_eq_true_eq] at h
    have hlow : 48 ≤ c.toNat := h.1
    have hhigh : c.toNat ≤ 57 := h.2
    have hcapital : ¬('A' ≤ c ∧ c ≤ 'Z') := fun hc => by
      have hc : 65 ≤ c.toNat := hc.1
      omega
    refine ⟨by omega, ?_⟩
    unfold asciiLower
    rw [if_neg hcapital]
  · decide
  · decide

/-- Nor is a text of such characters. -/
theorem lowerFrom_numerals {cs : List Char} (h : ∀ c ∈ cs, IsNumeral c)
    (seen : List Char) : lowerFrom seen cs = cs := by
  induction cs generalizing seen with
  | nil => rfl
  | cons c cs ih =>
    obtain ⟨hc, hcs⟩ := List.forall_mem_cons.mp h
    obtain ⟨hlow, hkept⟩ := hc.plain
    rw [lowerFrom, if_neg (by omega), ih hcs, lowerChar, if_pos hlow, hkept]
    rfl

/-- The text of a number: a sign where it is negative, and its digits. -/
theorem toList_toString (n : Int) :
    (toString n).toList
      = (if n < 0 then ['-'] else []) ++ Nat.toDigits 10 n.natAbs := by
  cases n with
  | ofNat m =>
    have hm : ¬Int.ofNat m < 0 := Int.not_lt.mpr (Int.natCast_nonneg m)
    rw [if_neg hm]
    exact String.toList_ofList
  | negSucc m =>
    rw [if_pos (Int.negSucc_lt_zero m)]
    show ("-" ++ Nat.repr (m + 1)).toList = _
    rw [String.toList_append]
    exact congrArg ('-' :: ·) String.toList_ofList

/-- The signs a number can be spelt with. -/
inductive Sign where
  | none
  | plus
  | minus
  deriving DecidableEq, Repr

namespace Sign

/-- How a sign is spelt. -/
def spelt : Sign → List Char
  | none => []
  | plus => ['+']
  | minus => ['-']

/-- The number with a sign. -/
def apply (m : Nat) : Sign → Int
  | none | plus => m
  | minus => -m

end Sign

/-- A spelling of a number: a sign, some zeros and the digits. -/
def spelling (sign : Sign) (zeros m : Nat) : List Char :=
  sign.spelt ++ (List.replicate zeros '0' ++ Nat.toDigits 10 m)

/-- Behind the sign there are digits, with the value of the number. -/
theorem digits_spelling (zeros m : Nat) :
    let digits := List.replicate zeros '0' ++ Nat.toDigits 10 m
    digits ≠ [] ∧ (∀ c ∈ digits, c.isDigit = true)
      ∧ Binary64.digitsValue digits = m := by
  refine ⟨?_, fun c hc => ?_, ?_⟩
  · exact List.append_ne_nil_of_right_ne_nil _ Nat.toDigits_ne_nil
  · obtain hc | hc := List.mem_append.mp hc
    · rw [(List.mem_replicate.mp hc).2]
      decide
    · exact Nat.isDigit_of_mem_toDigits (by decide) (by decide) hc
  · induction zeros with
    | zero => exact Json.digitsValue_toDigits m
    | succ zeros ih => exact ih

/-- The characters of a spelling. -/
theorem isNumeral_spelling {sign : Sign} {zeros m : Nat} :
    ∀ c ∈ spelling sign zeros m, IsNumeral c := by
  intro c hc
  obtain hc | hc := List.mem_append.mp hc
  · cases sign with
    | none => cases hc
    | plus => exact .inr (.inl (List.mem_singleton.mp hc))
    | minus => exact .inr (.inr (List.mem_singleton.mp hc))
  · exact .inl ((digits_spelling zeros m).2.1 c hc)

/-- The sign of a spelling is taken off. -/
theorem takeSign_spelling (sign : Sign) {zeros m : Nat} :
    takeSign (spelling sign zeros m)
      = (decide (sign = .minus),
        List.replicate zeros '0' ++ Nat.toDigits 10 m) := by
  cases sign with
  | plus => rfl
  | minus => rfl
  | none =>
    obtain ⟨-, hdigits, -⟩ := digits_spelling zeros m
    show takeSign (List.replicate zeros '0' ++ Nat.toDigits 10 m) = _
    unfold takeSign
    split
    · next h => exact absurd (hdigits '-' (by rw [h]; exact .head _)) (by decide)
    · next h => exact absurd (hdigits '+' (by rw [h]; exact .head _)) (by decide)
    · rfl

/-- A number within the range is read from each of its spellings. -/
theorem signed?_spelling {sign : Sign} {m : Nat}
    (hmin : minSigned ≤ sign.apply m) (hmax : sign.apply m ≤ maxSigned)
    (zeros : Nat) :
    signed? (String.ofList (spelling sign zeros m))
      = some (sign.apply m) := by
  obtain ⟨hne, hdigits, hvalue⟩ := digits_spelling zeros m
  have hsign : (if decide (sign = .minus) = true then -(m : Int) else m)
      = sign.apply m := by
    cases sign <;> rfl
  unfold signed?
  rw [String.toList_ofList, takeSign_spelling]
  dsimp only
  rw [if_neg, hvalue, hsign, if_pos ⟨hmin, hmax⟩]
  rw [List.all_eq_true.mpr hdigits]
  exact not_or.mpr ⟨hne, Bool.false_ne_true⟩

/-- A number that is read is within the range. -/
theorem signed?_range {text : String} {n : Int} (h : signed? text = some n) :
    minSigned ≤ n ∧ n ≤ maxSigned := by
  unfold signed? at h
  dsimp only at h
  split at h
  · cases h
  · obtain ⟨hrange, hn⟩ := Option.ite_none_right_eq_some.mp h
    rw [Option.some.inj hn] at hrange
    exact hrange

/-- A number is written with a sign where it is negative, and without
zeros in front. -/
theorem toString_eq_spelling (n : Int) :
    toString n
      = String.ofList (spelling (if n < 0 then .minus else .none) 0 n.natAbs) := by
  rw [← String.toList_inj, toList_toString, String.toList_ofList]
  split <;> rfl

end Text

-- ============================================================ passing

namespace Config.Environment

open Text (Sign spelling)

/-- A text spells a flag, in letters of any case. -/
def SpellsFlag (text : String) : Prop :=
  Text.lower text = "true" ∨ Text.lower text = "false"

/-- What the text of a variable comes out as where a text is wanted. -/
def shown (text : String) : String :=
  match (scalar text).text? with
  | .ok t => t
  | .error _ => text

/-- A variable always comes out as a text. -/
theorem text?_scalar (text : String) :
    (scalar text).text? = .ok (shown text) := by
  have hok : ∃ t, (scalar text).text? = .ok t := by
    unfold scalar
    dsimp only
    split
    · exact ⟨_, rfl⟩
    · split
      · exact ⟨_, rfl⟩
      · split
        · exact ⟨_, rfl⟩
        · split
          · exact ⟨_, rfl⟩
          · exact ⟨_, rfl⟩
  obtain ⟨t, ht⟩ := hok
  unfold shown
  rw [ht]

/-- A flag comes out in lower case. -/
theorem shown_flag {text : String} (h : SpellsFlag text) :
    shown text = Text.lower text := by
  unfold shown scalar
  dsimp only
  obtain h | h := h
  · rw [h]
    rfl
  · rw [h]
    rfl

/-- A number comes out as it is written. -/
theorem shown_number {text : String} (hflag : ¬SpellsFlag text) {n : Int}
    (h : Text.signed? text = some n) : shown text = toString n := by
  obtain ⟨htrue, hfalse⟩ := not_or.mp hflag
  unfold shown scalar
  dsimp only
  rw [if_neg htrue, if_neg hfalse, h]
  rfl

/-- A float comes out as it is written. -/
theorem shown_float {text : String} (hflag : ¬SpellsFlag text)
    (hnumber : Text.signed? text = none) {x : Binary64}
    (h : Binary64.ofText? text = some x) : shown text = x.plainText := by
  obtain ⟨htrue, hfalse⟩ := not_or.mp hflag
  unfold shown scalar
  dsimp only
  rw [if_neg htrue, if_neg hfalse, hnumber, h]
  rfl

/-- A text that spells nothing comes out as it is. -/
theorem shown_word {text : String} (hflag : ¬SpellsFlag text)
    (hnumber : Text.signed? text = none)
    (hfloat : Binary64.ofText? text = none) : shown text = text := by
  obtain ⟨htrue, hfalse⟩ := not_or.mp hflag
  unfold shown scalar
  dsimp only
  rw [if_neg htrue, if_neg hfalse, hnumber, hfloat]
  rfl

/-- The texts that a variable passes on as they are: a flag in lower case,
a number as it is written, a float as it is written, and what spells
nothing of the kind. -/
inductive Kept : String → Prop
  | flag (b : Bool) : Kept (if b then "true" else "false")
  | number {n : Int} : Text.minSigned ≤ n → n ≤ Text.maxSigned →
      Kept (toString n)
  | float {text : String} {x : Binary64} : ¬SpellsFlag text →
      Text.signed? text = none → Binary64.ofText? text = some x →
      x.plainText = text → Kept text
  | word {text : String} : ¬SpellsFlag text → Text.signed? text = none →
      Binary64.ofText? text = none → Kept text

/-- No number spells a flag. -/
theorem not_spellsFlag_spelling (sign : Sign) (zeros m : Nat) :
    ¬SpellsFlag (String.ofList (spelling sign zeros m)) := by
  have hlower : Text.lower (String.ofList (spelling sign zeros m))
      = String.ofList (spelling sign zeros m) := by
    unfold Text.lower
    rw [String.toList_ofList, Text.lowerFrom_numerals Text.isNumeral_spelling]
  have hne : ∀ {flag : String} {c : Char}, c ∈ flag.toList →
      ¬Text.IsNumeral c →
      Text.lower (String.ofList (spelling sign zeros m)) ≠ flag := by
    rintro flag c hmem hc rfl
    rw [hlower, String.toList_ofList] at hmem
    exact hc (Text.isNumeral_spelling c hmem)
  exact not_or.mpr
    ⟨hne (c := 't') (by decide +kernel) (by decide),
      hne (c := 'f') (by decide +kernel) (by decide)⟩

/-- A number comes out as it is written, however it is spelt. -/
theorem shown_spelling {sign : Sign} {m : Nat}
    (hmin : Text.minSigned ≤ sign.apply m)
    (hmax : sign.apply m ≤ Text.maxSigned) (zeros : Nat) :
    shown (String.ofList (spelling sign zeros m))
      = toString (sign.apply m) :=
  shown_number (not_spellsFlag_spelling sign zeros m)
    (Text.signed?_spelling hmin hmax zeros)

/-- A text is passed on as it is exactly where it is one of these. -/
theorem shown_eq_iff (text : String) : shown text = text ↔ Kept text := by
  constructor
  · intro h
    by_cases hflag : SpellsFlag text
    · rw [shown_flag hflag] at h
      obtain hlower | hlower := hflag
      · rw [← h, hlower]
        exact .flag true
      · rw [← h, hlower]
        exact .flag false
    · cases hnumber : Text.signed? text with
      | some n =>
        rw [shown_number hflag hnumber] at h
        obtain ⟨hmin, hmax⟩ := Text.signed?_range hnumber
        rw [← h]
        exact .number hmin hmax
      | none =>
        cases hfloat : Binary64.ofText? text with
        | some x =>
          rw [shown_float hflag hnumber hfloat] at h
          exact .float hflag hnumber hfloat h
        | none => exact .word hflag hnumber hfloat
  · intro h
    cases h with
    | flag b => cases b <;> decide +kernel
    | @number n hmin hmax =>
      have hn : (if n < 0 then Sign.minus else Sign.none).apply n.natAbs = n := by
        split
        · show -(n.natAbs : Int) = n
          omega
        · show (n.natAbs : Int) = n
          omega
      rw [← hn] at hmin hmax
      have hshown := shown_spelling hmin hmax 0
      rwa [hn, ← Text.toString_eq_spelling] at hshown
    | float hflag hnumber hfloat htext =>
      rw [shown_float hflag hnumber hfloat, htext]
    | word hflag hnumber hfloat => exact shown_word hflag hnumber hfloat

example : shown "1e3" = "1000" := by decide +kernel

-- half way between two texts that read back the float is written up
example : shown "1444235753247565.2" = "1444235753247565.3" := by
  decide +kernel

-- ======================================================== environment

section

variable {name other : String} {bindings : List (String × String)}

/-- An environment without the variable of a key. -/
def without (name : String) (bindings : List (String × String)) :
    List (String × String) :=
  bindings.filter fun b => !decide (Sets name b)

/-- The variable is not found there. -/
theorem textOf_without_self : textOf? name (without name bindings) = none := by
  unfold textOf? without
  rw [Option.map_eq_none_iff, List.find?_eq_none]
  intro b hb hsets
  have hnot := (List.mem_filter.mp hb).2
  rw [hsets] at hnot
  cases hnot

/-- Every other one is. -/
theorem textOf_without (h : other ≠ name) :
    textOf? other (without name bindings) = textOf? other bindings := by
  unfold textOf? without
  rw [List.find?_filter]
  congr 2
  funext b
  refine decide_eq_decide.mpr ⟨fun hboth => of_decide_eq_true hboth.2,
    fun hother => ⟨?_, decide_eq_true hother⟩⟩
  have hname : ¬Sets name b := fun hname => h (hother.unique hname)
  rw [decide_eq_false hname]
  rfl

/-- The variables of the source that are left set keys of the table. -/
theorem SetsKeys.without (h : SetsKeys bindings) (name : String) :
    SetsKeys (without name bindings) := by
  have hsub : (owned (Environment.without name bindings)).Sublist
      (owned bindings) :=
    List.filter_sublist.filter _
  exact ⟨fun b hb => h.named b (hsub.subset hb),
    h.distinct.sublist (hsub.map _)⟩

end

end Config.Environment

-- ========================================================= credentials

namespace Credential

open Config (Supplies Tabled loadFrom tabled)
open Config.Environment (SetsKeys textOf? without shown Kept)
open Settings (setting?)

variable {c : Credential} {s : Settings} {config : Config.Entries}

/-- A credential of resolved settings comes from its key. -/
theorem holds (h : Settings.resolve config = .ok (some s)) :
    Settings.Holds config c.name Config.Setting.asText "" (c.get s) := by
  obtain ⟨hfaithful, -⟩ := Settings.resolve_iff.mp h
  cases c with
  | username => exact hfaithful.username
  | password => exact hfaithful.password

/-- It can be read there. -/
theorem text_of_resolve (h : Settings.resolve config = .ok (some s)) :
    ∃ t?, Settings.text config c.name = .ok t? := by
  have hholds := holds (c := c) h
  unfold Settings.Holds at hholds
  unfold Settings.text Settings.optional
  cases hfound : setting? config c.name with
  | none => exact ⟨none, rfl⟩
  | some v =>
    rw [hfound] at hholds
    dsimp only at hholds ⊢
    rw [hholds]
    exact ⟨some (c.get s), rfl⟩

/-- Where the value of a variable is found, its text comes out. -/
theorem asText_scalar (key : String) (origin : Option String) (p : String) :
    Config.Setting.asText key (.scalar origin (Config.Environment.scalar p))
      = .ok (shown p) := by
  unfold Config.Setting.asText Config.Setting.asScalar
  dsimp only
  rw [Config.Environment.text?_scalar]
  rfl

/-- The settings under a url where nothing else is set. -/
def standard (url : String) : Settings where
  driver := Settings.defaultDriver
  url := url
  username := ""
  password := ""
  autoCreate := false
  table := Settings.defaultTable
  maxFileBytes := Settings.defaultMaxFileBytes
  chunkBytes := Settings.defaultChunkBytes
  atomicOverwrite := false
  busyTimeout := Settings.defaultBusyTimeout
  connectionTimeout := Settings.defaultConnectionTimeout

/-- A table of a url and a credential resolves to these. -/
theorem resolve_tabled {url : String} (hurl : Text.allBlank url = false)
    (c : Credential) (p : String) (origin : Option String) :
    Settings.resolve (tabled origin [("url", url), (c.name, p)])
      = .ok (some (c.set p (standard (Text.trim url)))) := by
  have hfor : Settings.resolveFor
      (tabled origin [("url", url), (c.name, p)]) (Text.trim url)
      = .ok (c.set p (standard (Text.trim url))) := by
    cases c
    · rfl
    · rfl
  unfold Settings.resolve
  show (if Text.allBlank url = true then _ else _) = _
  rw [hurl, if_neg Bool.false_ne_true, hfor]
  rfl

/-- A credential that is written in a file comes out as it is. -/
theorem written_arrives {url : String} (hurl : Text.allBlank url = false)
    {files : FileTree} {path p : String}
    (h : Tabled files path [("url", url), (c.name, p)]) (required : Bool) :
    ∃ config s, loadFrom files [] (some path) required = .ok config
      ∧ Settings.resolve config = .ok (some s) ∧ c.get s = p := by
  obtain ⟨origin, hfile⟩ := h.supplies required
  have halike : Alike
      (Settings.resolve
        (Config.overlay (tabled origin [("url", url), (c.name, p)]) []))
      (Settings.resolve (tabled origin [("url", url), (c.name, p)])) := by
    refine Settings.resolve_alike fun name _ => ?_
    unfold Settings.SameUnder
    rw [Settings.setting_overlay_nil hfile.distinct
      (Settings.standsAlone_tabled _ _)]
  rw [resolve_tabled hurl] at halike
  exact ⟨_, _, hfile.loadFrom [], halike.eq_ok, c.get_set p _⟩

section

variable {p : String} {files : FileTree} {path : Option String}
  {required : Bool} {file : Config.Entries}
  {bindings : List (String × String)}

/-- A credential of the environment comes out as its variable is shown,
and everything else as it does without that variable. -/
theorem environment_arrives (hfile : Supplies files path required file)
    (hvars : SetsKeys bindings) (hset : textOf? c.name bindings = some p) :
    ∃ config₀ config,
      loadFrom files (without c.name bindings) path required = .ok config₀
      ∧ loadFrom files bindings path required = .ok config
      ∧ (∀ s, Settings.resolve config₀ = .ok (some s) →
          Settings.resolve config = .ok (some (c.set (shown p) s)))
      ∧ ∀ s, Settings.resolve config = .ok (some s) → c.get s = shown p := by
  have hkeys := (Config.overrides_alone hvars file).keys
  have hkeys₀ := (Config.overrides_alone (hvars.without c.name) file).keys
  have hfound := hkeys c.name
  rw [hset] at hfound
  refine ⟨_, _, hfile.loadFrom _, hfile.loadFrom _, fun s hs => ?_,
    fun s hs => ?_⟩
  · -- below the variable the credential may be missing, but not unreadable:
    -- else nothing would have been resolved without it
    obtain ⟨t?, ht⟩ := text_of_resolve (c := c) hs
    have hread := Settings.optional_some_iff.mpr
      ⟨_, hfound, asText_scalar (Settings.key c.name) _ p⟩
    have hothers := fun name (_ : name ∈ Settings.names) hname =>
      (hkeys name).trans
        ((hkeys₀ name).trans (by
          rw [Config.Environment.textOf_without hname])).symm
    rw [Settings.resolve_credential hothers ht hread, hs]
    rfl
  · have hholds := holds (c := c) hs
    unfold Settings.Holds at hholds
    rw [hfound] at hholds
    exact Except.ok.inj (hholds.symm.trans (asText_scalar _ _ p))

/-- What arrives of a credential. Of the environment that is the text of
its variable as it is shown, which is that text exactly where it is kept;
under the variable a configuration resolves as it does without it, but for
the credential. Of a file it is the text itself. -/
theorem credential_arrives (hfile : Supplies files path required file)
    (hvars : SetsKeys bindings) (hset : textOf? c.name bindings = some p) :
    ∃ config₀ config,
      loadFrom files (without c.name bindings) path required = .ok config₀
      ∧ loadFrom files bindings path required = .ok config
      ∧ (∀ s, Settings.resolve config₀ = .ok (some s) →
          Settings.resolve config = .ok (some (c.set (shown p) s)))
      ∧ (∀ s, Settings.resolve config = .ok (some s) →
          c.get s = shown p ∧ (c.get s = p ↔ Kept p))
      ∧ ∀ files' path' url, Text.allBlank url = false →
          Tabled files' path' [("url", url), (c.name, p)] →
          ∃ config' s', loadFrom files' [] (some path') true = .ok config'
            ∧ Settings.resolve config' = .ok (some s') ∧ c.get s' = p := by
  obtain ⟨config₀, config, hload₀, hload, hcarried, hget⟩ :=
    environment_arrives hfile hvars hset
  refine ⟨config₀, config, hload₀, hload, hcarried, fun s hs => ?_,
    fun files' path' url hurl h => written_arrives hurl h true⟩
  have hs := hget s hs
  refine ⟨hs, ?_⟩
  rw [hs]
  exact Config.Environment.shown_eq_iff p

end

open Config (oneFile oneTable onePassword)

/-- Without the variable of the password the file resolves. -/
theorem resolve_without_onePassword {text : String} {config : Config.Entries}
    (h : loadFrom oneFile (without "password" (onePassword text))
      (some "c.toml") true = .ok config) :
    ∃ s, Settings.resolve config = .ok (some s) := by
  obtain ⟨origin, hfile⟩ := Config.tabled_oneFile.supplies true
  obtain ⟨hvars, htext⟩ := Config.setsKeys_onePassword text
  have hnone : ∀ name,
      textOf? name (without "password" (onePassword text)) = none := by
    intro name
    by_cases hname : name = "password"
    · rw [hname, Config.Environment.textOf_without_self]
    · rw [Config.Environment.textOf_without hname, htext, if_neg hname]
  have halike := (Config.overrides_file (hvars.without "password")
    hfile.distinct (Settings.standsAlone_tabled origin oneTable)).alike hnone
  have hurl : Text.allBlank "a.db" = false := by decide +kernel
  have hresolve := resolve_tabled hurl .password "old" origin
  cases h.symm.trans (hfile.loadFrom _)
  rw [show tabled origin oneTable
    = tabled origin [("url", "a.db"), (password.name, "old")] from rfl,
    hresolve] at halike
  exact ⟨_, halike.eq_ok⟩

/-- A password of letters and digits is passed on as it is. -/
theorem credential_arrives_word :
    ∃ config s,
      loadFrom oneFile (onePassword "hunter2") (some "c.toml") true
        = .ok config
      ∧ Settings.resolve config = .ok (some s) ∧ s.password = "hunter2" := by
  obtain ⟨origin, hfile⟩ := Config.tabled_oneFile.supplies true
  obtain ⟨hvars, htext⟩ := Config.setsKeys_onePassword "hunter2"
  have hset : textOf? password.name (onePassword "hunter2")
      = some "hunter2" := htext "password"
  obtain ⟨config₀, config, hload₀, hload, hcarried, hkept, -⟩ :=
    credential_arrives hfile hvars hset
  obtain ⟨s₀, hs₀⟩ := resolve_without_onePassword hload₀
  have hs := hcarried s₀ hs₀
  have hword : shown "hunter2" = "hunter2" := by decide +kernel
  exact ⟨config, _, hload, hs, (hkept _ hs).1.trans hword⟩

/-- A password with zeros in front arrives without them, though the url is
set and nothing is reported. -/
theorem zeros_lost :
    ∃ config s,
      loadFrom oneFile (onePassword "007") (some "c.toml") true = .ok config
      ∧ Settings.resolve config = .ok (some s)
      ∧ s.password = "7" ∧ s.password ≠ "007" := by
  obtain ⟨origin, hfile⟩ := Config.tabled_oneFile.supplies true
  obtain ⟨hvars, htext⟩ := Config.setsKeys_onePassword "007"
  have hset : textOf? password.name (onePassword "007") = some "007" :=
    htext "password"
  obtain ⟨config₀, config, hload₀, hload, hcarried, hget⟩ :=
    environment_arrives hfile hvars hset
  obtain ⟨s₀, hs₀⟩ := resolve_without_onePassword hload₀
  have hs := hcarried s₀ hs₀
  have hshown : shown "007" = "7" := by decide +kernel
  have hpassword : (password.set (shown "007") s₀).password = "7" :=
    (hget _ hs).trans hshown
  refine ⟨config, _, hload, hs, hpassword, ?_⟩
  rw [hpassword]
  decide

end Credential

end FileDepot
