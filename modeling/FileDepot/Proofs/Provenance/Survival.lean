/-
Metadata of other writers: which texts can be read at all, and that what
was read of them is not lost when it is written again.

Whatever a text gives holds no further field of a known key, because the
reader lifts these out, and its further fields are in order, because it
puts them in one by one. These are the two things that a provenance
needs in order to come back from its own text, so reading, writing and
reading again ends where it was after the first reading.
-/
import FileDepot.Proofs.Provenance.RoundTrip

namespace FileDepot.Provenance

open Json (Tree Ascending valuesAt)

variable {fs : List (String × Tree)} {p : Provenance}

-- ============================================== what fields give

/-- A provenance holds what the fields of a metadata object say: the
texts of the known keys, and of every other key the last value. -/
structure Holds (fs : List (String × Tree)) (p : Provenance) : Prop where
  host : p.host = loneText (valuesAt hostKey fs)
  path : p.path = loneText (valuesAt pathKey fs)
  ascending : Ascending p.extra
  extra : ∀ k v, (k, v) ∈ p.extra ↔ k ≠ hostKey ∧ k ≠ pathKey
    ∧ (valuesAt k fs).getLast?.map Tree.value = some v

/-- Values under a key that is not known are those among the other
fields. -/
theorem valuesAt_others {α : Type} (k : String) (fs : List (String × α)) :
    valuesAt k (others fs)
      = if k ≠ hostKey ∧ k ≠ pathKey then valuesAt k fs else [] := by
  unfold Json.valuesAt others
  rw [List.filter_filter]
  by_cases h : k ≠ hostKey ∧ k ≠ pathKey
  · rw [if_pos h]
    congr 1
    refine List.filter_congr fun f _ => ?_
    by_cases hk : f.1 = k <;> simp [hk, h]
  · rw [if_neg h]
    have hnil : fs.filter (fun f => f.1 == k
        && decide (f.1 ≠ hostKey ∧ f.1 ≠ pathKey)) = [] := by
      refine List.filter_eq_nil_iff.mpr fun f _ => ?_
      by_cases hk : f.1 = k <;> simp [hk, h]
    rw [hnil, List.map_nil]

/-- The provenance that fields give holds what they say. -/
theorem holds_ofFields (fs : List (String × Tree)) :
    Holds fs (ofFields fs) where
  host := rfl
  path := rfl
  ascending := Json.ascending_ofPairs _
  extra k v := by
    show (k, v) ∈ Json.ofPairs _ ↔ _
    rw [Json.mem_ofPairs, Json.fieldValues_eq_map, Json.valuesAt_map,
      List.getLast?_map, valuesAt_others]
    split
    · next hk => simp [hk]
    · next hk =>
      simp only [List.getLast?_nil, Option.map_none]
      exact ⟨nofun, fun h => absurd ⟨h.1, h.2.1⟩ hk⟩

/-- The provenance that fields with whole numbers give is plain. -/
theorem plain_ofFields (hw : (Tree.obj fs).Whole) : (ofFields fs).Plain where
  ascending := Json.ascending_ofPairs _
  values f hf := by
    cases hw with
    | obj hw =>
        obtain ⟨g, hg, hval⟩ := Json.exists_of_mem_fieldValues hf
        rw [hval]
        exact (hw g (List.mem_filter.mp hg).1).value_plain

/-- The text of the provenance that fields give nests no deeper than
theirs. -/
theorem within_ofFields {d : Nat} (hd : (Tree.obj fs).Within d) :
    (ofFields fs).json.Within d := by
  cases hd with
  | obj hd =>
      refine within_json fun f hf => ?_
      obtain ⟨g, hg, hval⟩ := Json.exists_of_mem_fieldValues hf
      rw [hval]
      exact (hd g (List.mem_filter.mp hg).1).value_within

/-- What holds the fields of an object comes back from its own text. -/
theorem decode_encode_ofFields (hw : (Tree.obj fs).Whole)
    (hd : (Tree.obj fs).Within Json.maxDepth) :
    decode (some (ofFields fs).encode) = .ok (ofFields fs) := by
  refine ((plain_ofFields hw).decode_encode (within_ofFields hd)).mpr ?_
  refine reread_eq_self.mpr fun f hf => ?_
  obtain ⟨hhost, hpath, -⟩ := ((holds_ofFields fs).extra f.1 f.2).mp hf
  exact ⟨hhost, hpath⟩

-- ========================================== reading and writing

/-- Metadata whose numbers are whole and fit a 64-bit word can be read
exactly where it is blank or an object that nests less than 128 levels
deep and has under each known key at most one value, a text or null.
What is read holds what the fields of the object say, and comes back
from the text it is written as. -/
theorem decode_survives {text : String}
    (hw : ∀ t : Tree, t.IsSaidBy (Text.trim text) → t.Whole) :
    ((∃ p, decode (some text) = .ok p)
        ↔ Text.trim text = ""
          ∨ ∃ fs, (Tree.obj fs).IsSaidBy (Text.trim text)
            ∧ (Tree.obj fs).Within 127
            ∧ Lone (valuesAt hostKey fs) ∧ Lone (valuesAt pathKey fs))
      ∧ ∀ p, decode (some text) = .ok p →
          (Text.trim text = "" → p = empty)
          ∧ (∀ fs, (Tree.obj fs).IsSaidBy (Text.trim text) → Holds fs p)
          ∧ decode (some p.encode) = .ok p := by
  constructor
  · constructor
    · rintro ⟨p, hp⟩
      rcases said_of_decode hp with ⟨hblank, -⟩ | ⟨fs, hsaid, hd⟩
      · exact .inl hblank
      · obtain ⟨hhost, hpath, -⟩ := (decode_iff hsaid (hw _ hsaid) hd).mp hp
        exact .inr ⟨fs, hsaid, hd, hhost, hpath⟩
    · rintro (hblank | ⟨fs, hsaid, hd, hhost, hpath⟩)
      · exact ⟨empty, decode_blank hblank⟩
      · exact ⟨ofFields fs,
          (decode_iff hsaid (hw _ hsaid) hd).mpr ⟨hhost, hpath, rfl⟩⟩
  · intro p hp
    rcases said_of_decode hp with ⟨hblank, rfl⟩ | ⟨fs, hsaid, hd⟩
    · exact ⟨fun _ => rfl, fun fs hsaid => absurd hblank hsaid.ne_empty,
        by rfl⟩
    · obtain ⟨-, -, rfl⟩ := (decode_iff hsaid (hw _ hsaid) hd).mp hp
      refine ⟨fun hblank => absurd hblank hsaid.ne_empty, fun gs hgs => ?_,
        decode_encode_ofFields (hw _ hsaid) hd⟩
      cases hsaid.unique hgs
      exact holds_ofFields fs

/-- A text with blanks around it, an escaped known key and a key that
stands twice is read, and comes back. -/
theorem decode_survives_escaped :
    ∃ p, decode (some
        " \x7b\"\\u005fserver_\": \"nas\", \"n\": 1, \"n\": [-2]\x7d ") = .ok p
      ∧ p.host = some "nas" ∧ ("n", .arr [.int (-2)]) ∈ p.extra
      ∧ decode (some p.encode) = .ok p := by
  let fs : List (String × Tree) :=
    [("_server_", .str "nas"), ("n", .number (Json.renderInt 1)),
      ("n", .arr [.number (Json.renderInt (-2))])]
  have hsaid : (Tree.obj fs).IsSaidBy (Text.trim
      " \x7b\"\\u005fserver_\": \"nas\", \"n\": 1, \"n\": [-2]\x7d ") := by
    have htrim : Text.trim
        " \x7b\"\\u005fserver_\": \"nas\", \"n\": 1, \"n\": [-2]\x7d "
        = "\x7b\"\\u005fserver_\": \"nas\", \"n\": 1, \"n\": [-2]\x7d" := by
      decide
    have hvalue : ∀ {t a b}, Json.Spelt t a b →
        Json.Valued t (':' :: ' ' :: a) b :=
      fun h => .colon .none (.more rfl .none) h
    have hnext : ∀ {k t fs a b c rest}, Json.Chars (String.toList k) a b →
        Json.Valued t b c → Json.Members false fs c rest →
        Json.Members false ((k, t) :: fs) (',' :: ' ' :: '"' :: a) rest :=
      fun hk hv hfs => .next .none (.more rfl .none) hk hv hfs
    have hkey : ∀ {k cs rest}, Json.string cs = .ok (k, rest) →
        Json.Chars (String.toList k) cs rest := Json.string_iff.mp
    rw [htrim]
    have hlist : ∀ rest, Json.Items true [.number (Json.renderInt (-2))]
        ('-' :: '2' :: ']' :: rest) rest := fun rest =>
      .first .none (.number (Json.numeral_renderInt (-2))) (.close .none)
    refine ⟨_, [], .none, .obj (.first .none (hkey rfl)
      (hvalue (.str (hkey rfl))) (hnext (hkey rfl)
        (hvalue (.number (Json.numeral_renderInt 1))) (hnext (hkey rfl)
          (hvalue (.arr (hlist _))) (.close .none)))), .none⟩
  have hwhole : (Tree.obj fs).Whole := by
    have hone : Tree.Whole (.number (Json.renderInt 1)) := .number (by decide)
    have htwo : Tree.Whole (.number (Json.renderInt (-2))) :=
      .number (by decide)
    refine .obj ?_
    simp only [fs, List.forall_mem_cons]
    exact ⟨.str, hone, .arr (List.forall_mem_singleton.mpr htwo), nofun⟩
  have hwithin : (Tree.obj fs).Within 127 := by
    refine .obj ?_
    simp only [fs, List.forall_mem_cons]
    exact ⟨.str, .number, .arr (List.forall_mem_singleton.mpr .number), nofun⟩
  obtain ⟨hread, hback⟩ := decode_survives fun t ht => by
    rw [ht.unique hsaid]
    exact hwhole
  obtain ⟨p, hp⟩ := hread.mpr (.inr ⟨fs, hsaid, hwithin,
    .inr (.inr ⟨"nas", rfl⟩), .inl rfl⟩)
  obtain ⟨-, hholds, hagain⟩ := hback p hp
  have h := hholds fs hsaid
  exact ⟨p, hp, h.host,
    (h.extra "n" _).mpr ⟨by decide, by decide, rfl⟩, hagain⟩

end FileDepot.Provenance
