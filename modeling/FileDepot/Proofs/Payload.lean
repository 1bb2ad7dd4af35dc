/-
The size limit: what it lets through, and that nothing gets around it.

Two sizes meet at the limit, the one a file reports and the one of what
reading it gives. They need not agree, so `payload` is taken here apart
from any file, with both as they come. Reading stops one byte behind the
limit: a content within the limit is read whole, and one above it leaves
a part that is itself above it, so no part is ever taken for a whole.

In words of 64 bits the byte behind the limit is a sum that can fail.
`payloadInWords` has that as an outcome of its own. It does not occur
below the largest word (`payloadInWords_eq`), and settings that are
accepted stay far below (`Settings.Fits`).

# Insertions

`OnlyAdds` says of two databases that every record of the second stands
in the first or is of some kind. A step edits a table with the draft it
has made or creates an empty one, so the records it adds are those of the
draft (`Step.adds`), whatever the database looks like and however the
step ends; and a draft is within the limit.
-/
import FileDepot.Proofs.Commands
import FileDepot.Proofs.Session.Apart

namespace FileDepot

-- ============================================================ reading

/-- The largest number of 64 bits. -/
def maxWord : Nat := 18446744073709551615

/-- The next number in words of 64 bits. -/
def nextWord? (n : Nat) : Option Nat :=
  if n + 1 ≤ maxWord then some (n + 1) else none

theorem nextWord?_eq {n : Nat} (h : n < maxWord) :
    nextWord? n = some (n + 1) := by
  unfold nextWord?
  exact if_pos h

/-- The payload of a file as it is read with words of 64 bits; none where
the place to stop reading at is not a word. -/
def payloadInWords (path : String) (limit : Nat)
    (size : Except FileFault Nat) (content : Except FileFault Bytes) :
    Option (Except Failure Bytes) :=
  match size with
  | .error fault => some (.error (.io path fault))
  | .ok size =>
    if limit < size then some (.error (.fileTooLarge path size limit))
    else
      match nextWord? limit, content with
      | none, _ => none
      | some _, .error fault => some (.error (.io path fault))
      | some stop, .ok content =>
        let read := content.take stop
        if limit < read.length then
          some (.error (.fileTooLarge path read.length limit))
        else some (.ok read)

section

variable {path : String} {limit size : Nat}

/-- Below the largest word there is a word behind the limit, and a
payload is what is read. -/
theorem payloadInWords_eq (h : limit < maxWord)
    (size : Except FileFault Nat) (content : Except FileFault Bytes) :
    payloadInWords path limit size content
      = some (payload path limit size content) := by
  unfold payloadInWords payload
  cases size with
  | error fault => rfl
  | ok size =>
      dsimp only
      by_cases hsize : limit < size
      · rw [if_pos hsize, if_pos hsize]
      · rw [if_neg hsize, if_neg hsize, nextWord?_eq h]
        cases content with
        | error fault => rfl
        | ok content => exact (apply_ite some ..).symm

/-- A size above the limit is refused, whatever the content. -/
theorem payload_oversized (h : limit < size)
    (content : Except FileFault Bytes) :
    payload path limit (.ok size) content
      = .error (.fileTooLarge path size limit) := by
  unfold payload
  exact if_pos h

/-- A content above the limit is refused with the size at which reading
has stopped. -/
theorem payload_grown {content : Bytes} (hsize : size ≤ limit)
    (h : limit < content.length) :
    payload path limit (.ok size) (.ok content)
      = .error (.fileTooLarge path (limit + 1) limit) := by
  have hread : (content.take (limit + 1)).length = limit + 1 := by
    rw [List.length_take]
    omega
  unfold payload
  dsimp only
  rw [if_neg (by omega), hread, if_pos (by omega)]

/-- A size and a content within the limit give the content. -/
theorem payload_whole {content : Bytes} (hsize : size ≤ limit)
    (h : content.length ≤ limit) :
    payload path limit (.ok size) (.ok content) = .ok content := by
  have hread : content.take (limit + 1) = content :=
    List.take_of_length_le (by omega)
  unfold payload
  dsimp only
  rw [if_neg (by omega), hread, if_neg (by omega)]

/-- What a limit makes of a file that reports a size and that reading
gives some content of: the whole content or a refusal, with no third
outcome. -/
structure WholeOrRefused (path : String) (limit : Nat) : Prop where
  whole : ∀ (size : Nat) (content data : Bytes),
    payloadInWords path limit (.ok size) (.ok content) = some (.ok data)
      ↔ size ≤ limit ∧ content.length ≤ limit ∧ data = content
  /-- The content is not looked at. -/
  oversized : ∀ (size : Nat) (content : Except FileFault Bytes),
    limit < size →
    payloadInWords path limit (.ok size) content
      = some (.error (.fileTooLarge path size limit))
  grown : ∀ (size : Nat) (content : Bytes),
    size ≤ limit → limit < content.length →
    payloadInWords path limit (.ok size) (.ok content)
      = some (.error (.fileTooLarge path (limit + 1) limit))
  /-- What is read for a draft is read like this. -/
  modelled : ∀ (size : Except FileFault Nat)
    (content : Except FileFault Bytes),
    payloadInWords path limit size content
      = some (payload path limit size content)

theorem wholeOrRefused (path : String) (h : limit < maxWord) :
    WholeOrRefused path limit := by
  have hwords : ∀ (size : Except FileFault Nat)
      (content : Except FileFault Bytes),
      payloadInWords path limit size content
        = some (payload path limit size content) := payloadInWords_eq h
  refine
    { whole := ?whole
      oversized := ?oversized
      grown := ?grown
      modelled := hwords }
  case whole =>
    intro size content data
    rw [hwords, Option.some.injEq]
    constructor
    · intro hok
      by_cases hsize : size ≤ limit
      · obtain ⟨hread, hle⟩ := payload_ok hok
        cases hread
        exact ⟨hsize, hle, rfl⟩
      · rw [payload_oversized (by omega)] at hok
        cases hok
    · rintro ⟨hsize, hle, rfl⟩
      exact payload_whole hsize hle
  case oversized =>
    intro size content hsize
    rw [hwords, payload_oversized hsize]
  case grown =>
    intro size content hsize hcontent
    rw [hwords, payload_grown hsize hcontent]

end

-- ========================================================= insertions

/-- Every record of a database stands in the table of that name of the
one before, or is of some kind. -/
def Database.OnlyAdds (P : Record → Prop) (before after : Database) :
    Prop :=
  ∀ name, ∀ r ∈ after.records name, r ∈ before.records name ∨ P r

namespace Database.OnlyAdds

variable {P : Record → Prop} {db mid after : Database} {name : String}

theorem refl (db : Database) : db.OnlyAdds P db :=
  fun _ _ hr => .inl hr

theorem trans (h : db.OnlyAdds P mid) (h' : mid.OnlyAdds P after) :
    db.OnlyAdds P after := by
  intro name r hr
  rcases h' name r hr with hmid | hP
  · exact h name r hmid
  · exact .inr hP

theorem mono {Q : Record → Prop} (h : db.OnlyAdds P after)
    (hPQ : ∀ r, P r → Q r) : db.OnlyAdds Q after :=
  fun name r hr => (h name r hr).imp_right (hPQ r)

/-- Edits of a table add the drafts they are made with. -/
theorem of_edits {D : Draft → Prop} (h : db.Edits name D after)
    (hP : ∀ r : Record, D r.toDraft → P r) : db.OnlyAdds P after := by
  intro other r hr
  exact (h.mem_records hr).imp_right (hP r)

/-- A new table has no records. -/
theorem withTable (name : String) (db : Database) :
    db.OnlyAdds P (db.withTable name) := by
  intro other r hr
  unfold Database.records at hr ⊢
  rw [table?_withTable] at hr
  cases ht : db.table? other with
  | some t =>
      rw [ht] at hr
      exact .inl hr
  | none =>
      rw [ht] at hr
      split at hr
      · cases hr
      · cases hr

end Database.OnlyAdds

-- ============================================================== steps

/-- The record holds the whole content of the file that the step is asked
to store, knows its size, and is within a limit. -/
def Step.StoresWhole (s : Step) (limit : Nat) (r : Record) : Prop :=
  (∃ l file, s.request = .store l file ∧ s.files.read file = .ok r.data)
    ∧ r.length = r.data.length ∧ r.data.length ≤ limit

/-- A step adds to no table anything but records of the whole file it is
asked to store. -/
theorem Step.adds (s : Step) (db : Database) :
    db.OnlyAdds (s.StoresWhole s.depot.options.maxFileBytes) (s.after db) := by
  have hdraft : ∀ r : Record, s.Drafts db r.toDraft →
      s.StoresWhole s.depot.options.maxFileBytes r := by
    rintro r ⟨l, file, hask, hread⟩
    obtain ⟨data, hdata, hle, hdraft⟩ := Depot.draft_ok hread
    have hcontent : r.data = data := by
      rw [hdraft]
      rfl
    have hlength : r.length = data.length := by
      rw [hdraft]
      rfl
    subst hcontent
    exact ⟨⟨l, file, hask, hdata⟩, hlength, hle⟩
  rcases s.after_edits db with hedits | ⟨-, hmade⟩
  · exact .of_edits hedits hdraft
  · rw [hmade]
    exact .trans (.of_edits (s.edits_meets db) hdraft) (.withTable _ _)

/-- What every step adds is of a kind, so is what a session adds. -/
theorem session_adds {P : Record → Prop} {steps : List Step}
    (h : ∀ s ∈ steps, ∀ now : Database, now.OnlyAdds P (s.after now))
    (db : Database) :
    db.OnlyAdds P (session db steps) := by
  induction steps generalizing db with
  | nil => exact .refl db
  | cons s rest ih =>
      have hfirst := h s (List.mem_cons_self ..) db
      exact hfirst.trans
        (ih (fun other hother => h other (List.mem_cons_of_mem _ hother)) _)

-- ===================================================== configurations

/-- A depot of a configuration has the size limit of its settings. -/
theorem Depot.limit_of_connect {s : Settings} {site : Site} {m : Mounted}
    (h : (Depot.connect s site).result = .ok m) :
    m.depot.options.maxFileBytes = s.maxFileBytes := by
  obtain ⟨path, opened, hplan, -⟩ := Depot.connect_ok h
  generalize m.depot = d at hplan
  unfold plan at hplan
  obtain ⟨dialect, -, hplan⟩ := bind_ok hplan
  obtain ⟨table, -, hplan⟩ := bind_ok hplan
  obtain ⟨path', -, hplan⟩ := bind_ok hplan
  cases hplan
  rfl

/-- An accepted size limit is below the largest word. -/
theorem Settings.limit_of_resolve {config : Config.Entries} {s : Settings}
    (h : Settings.resolve config = .ok (some s)) :
    s.maxFileBytes < maxWord := by
  have hfits : Settings.Fits s.maxFileBytes :=
    (Settings.accepted_of_resolve h).fits _ (List.mem_cons_self ..)
  unfold Settings.Fits Text.maxSigned Binary64.maxInt at hfits
  unfold maxWord
  omega

/-- A depot inserts nothing above a limit. -/
structure Depot.InsertsWithin (d : Depot) (limit : Nat) : Prop where
  /-- A payload that was let through, from a file that may have changed
  between the look at its size and the reading. -/
  changing : ∀ (path : String) (size : Except FileFault Nat)
    (content : Except FileFault Bytes) (data : Bytes),
    payloadInWords path d.options.maxFileBytes size content
      = some (.ok data) →
    ∀ (l : Location) (metadata : String) (now : Int) (scene : Scene),
      scene.database.OnlyAdds
        (fun r => r.data = data ∧ r.length = r.data.length
          ∧ r.data.length ≤ limit)
        (d.replace l (.ofFile l data metadata now) scene).scene.database
  step : ∀ s : Step, s.depot = d → ∀ db : Database,
    db.OnlyAdds (s.StoresWhole limit) (s.after db)
  session : ∀ steps : List Step, (∀ s ∈ steps, s.depot = d) →
    ∀ db : Database,
      db.OnlyAdds
        (fun r => r.length = r.data.length ∧ r.data.length ≤ limit)
        (session db steps)

theorem Depot.insertsWithin {d : Depot} {limit : Nat}
    (hlimit : d.options.maxFileBytes = limit) (hword : limit < maxWord) :
    d.InsertsWithin limit := by
  subst hlimit
  have hstep : ∀ s : Step, s.depot = d → ∀ db : Database,
      db.OnlyAdds (s.StoresWhole d.options.maxFileBytes) (s.after db) := by
    rintro s rfl db
    exact s.adds db
  refine { changing := ?changing, step := hstep, session := ?session }
  case changing =>
    intro path size content data hread l metadata now scene
    rw [payloadInWords_eq hword, Option.some.injEq] at hread
    obtain ⟨-, hle⟩ := payload_ok hread
    refine .of_edits (d.edits_replace l scene _) ?_
    intro r hr
    have hdata : r.data = data := by rw [hr]; rfl
    have hlength : r.length = data.length := by rw [hr]; rfl
    rw [hdata]
    exact ⟨rfl, hlength, hle⟩
  case session =>
    intro steps hsteps db
    refine session_adds (fun s hs now => ?_) db
    exact (hstep s (hsteps s hs) now).mono fun r hr => hr.2

/-- A payload is stored whole or not at all. Under every limit below the
largest word a file is read whole or refused, whatever the size it
reports and whatever reading it gives. A limit that a configuration
leads to is below the largest word, and the depot that is connected
inserts nothing above it. -/
theorem stored_whole_or_refused :
    (∀ (path : String) (limit : Nat), limit < maxWord →
        WholeOrRefused path limit)
      ∧ ∀ (config : Config.Entries) (s : Settings),
        Settings.resolve config = .ok (some s) →
          s.maxFileBytes < maxWord
            ∧ nextWord? s.maxFileBytes = some (s.maxFileBytes + 1)
            ∧ ∀ (site : Site) (m : Mounted),
              (Depot.connect s site).result = .ok m →
                m.depot.InsertsWithin s.maxFileBytes := by
  refine ⟨fun path limit h => wholeOrRefused path h, ?_⟩
  intro config s hresolve
  have hword := Settings.limit_of_resolve hresolve
  refine ⟨hword, nextWord?_eq hword, ?_⟩
  intro site m hconnect
  exact Depot.insertsWithin (Depot.limit_of_connect hconnect) hword

/-- A configuration with a url and a size limit. -/
def Settings.limited (bytes : Int) : Config.Entries :=
  [("storage", .table [("dfs", .table [("db", .table
    [("url", .scalar none (.text "files.db")),
      ("max_file_bytes", .scalar none (.number bytes))])])])]

/-- Under a limit of three bytes a file of three is read whole, one of
four is refused, and so is one that reports three and has grown. A depot
with that limit that stores a file of three bytes inserts nothing
longer. -/
theorem stored_whole_or_refused_three :
    payloadInWords "f" 3 (.ok 3) (.ok [1, 2, 3]) = some (.ok [1, 2, 3])
      ∧ payloadInWords "f" 3 (.ok 4) (.ok [1, 2, 3, 4])
        = some (.error (.fileTooLarge "f" 4 3))
      ∧ payloadInWords "f" 3 (.ok 3) (.ok [1, 2, 3, 4, 5])
        = some (.error (.fileTooLarge "f" 4 3))
      ∧ ∃ m, (∃ s, Settings.resolve (Settings.limited 3) = .ok (some s)
          ∧ (Depot.connect s { files := {} }).result = .ok m)
        ∧ ∀ db : Database, db.OnlyAdds
          (fun r => r.length = r.data.length ∧ r.data.length ≤ 3)
          (session db [{ smallStore 10 with depot := m.depot }]) := by
  obtain ⟨hlimit, hconfigured⟩ := stored_whole_or_refused
  have hthree := hlimit "f" 3 (by decide)
  obtain ⟨s, hresolve, hmax⟩ : ∃ s,
      Settings.resolve (Settings.limited 3) = .ok (some s)
        ∧ s.maxFileBytes = 3 := ⟨_, rfl, rfl⟩
  obtain ⟨m, hconnect⟩ : ∃ m,
      (Depot.connect s { files := {} }).result = .ok m := by
    cases hresolve
    exact ⟨_, rfl⟩
  obtain ⟨-, -, hinserts⟩ := hconfigured _ s hresolve
  refine ⟨?whole, ?oversized, ?grown, m, ⟨s, hresolve, hconnect⟩, ?inserts⟩
  case whole => exact (hthree.whole 3 _ _).mpr ⟨by decide, by decide, rfl⟩
  case oversized => exact hthree.oversized 4 _ (by decide)
  case grown => exact hthree.grown 3 _ (by decide) (by decide)
  case inserts =>
    intro db
    rw [← hmax]
    refine (hinserts _ m hconnect).session _ ?_ db
    simp

end FileDepot
