/-
Descriptions and downloads look at the same record, on any table.

`newest?` takes a record of the largest id at a location, also in tables
no depot has written (`IsNewest`). Both ways of asking go by it: a
description describes that record, and a download delivers it to the
target once there is room for that.

Where nothing is stored a download still makes room. That adds the
directories above the target and nothing else, and a plain target leads
to what it led to before.
-/
import FileDepot.Proofs.Directories
import FileDepot.Proofs.Serving
import FileDepot.Proofs.Session.Effect
import Mathlib.Data.List.Nodup

namespace FileDepot

variable {d : Depot} {l : Location} {scene : Scene} {t : Table}

-- ======================================================= the newest

namespace Table

/-- The record with the largest id at a location. -/
structure IsNewest (t : Table) (l : Location) (r : Record) : Prop where
  mem : r ∈ t.records
  location : r.location = l
  largest : ∀ s ∈ t.records, s.location = l → s.id ≤ r.id
  only : (t.records.map Record.id).Nodup →
    ∀ s ∈ t.records, s.location = l → s ≠ r → s.id < r.id

theorem newestOf_eq_none {records : List Record} :
    newestOf records = none ↔ records = [] := by
  cases records with
  | nil => simp [newestOf]
  | cons r rest =>
      unfold newestOf
      cases newestOf rest with
      | none => simp
      | some s => by_cases h : s.id < r.id <;> simp [h]

theorem newestOf_spec {records : List Record} {r : Record}
    (h : newestOf records = some r) :
    r ∈ records ∧ ∀ s ∈ records, s.id ≤ r.id := by
  induction records generalizing r with
  | nil => cases h
  | cons first rest ih =>
      unfold newestOf at h
      cases hrest : newestOf rest with
      | none =>
          rw [hrest] at h
          rw [newestOf_eq_none.mp hrest, ← Option.some.inj h]
          simp
      | some s =>
          obtain ⟨hmem, hlargest⟩ := ih hrest
          simp only [hrest] at h
          split at h
          · next hlt =>
            rw [← Option.some.inj h]
            refine ⟨List.mem_cons_self .., fun u hu => ?_⟩
            rcases List.mem_cons.mp hu with rfl | hu
            · omega
            · have := hlargest u hu
              omega
          · next hle =>
            rw [← Option.some.inj h]
            refine ⟨List.mem_cons_of_mem _ hmem, fun u hu => ?_⟩
            rcases List.mem_cons.mp hu with rfl | hu
            · omega
            · exact hlargest u hu

theorem isNewest_of_newest? {r : Record} (h : t.newest? l = some r) :
    t.IsNewest l r := by
  obtain ⟨hmem, hlargest⟩ := newestOf_spec h
  obtain ⟨hmem, hloc⟩ := mem_recordsAt.mp hmem
  have hle : ∀ s ∈ t.records, s.location = l → s.id ≤ r.id :=
    fun s hs hsloc => hlargest s (mem_recordsAt.mpr ⟨hs, hsloc⟩)
  refine ⟨hmem, hloc, hle, fun hn s hs hsloc hne => ?_⟩
  have hid : s.id ≠ r.id := fun hid =>
    hne (List.inj_on_of_nodup_map hn hs hmem hid)
  have := hle s hs hsloc
  omega

theorem newest?_eq_none :
    t.newest? l = none ↔ ∀ r ∈ t.records, r.location ≠ l := by
  show newestOf (t.recordsAt l) = none ↔ _
  rw [newestOf_eq_none, List.eq_nil_iff_forall_not_mem]
  simp only [mem_recordsAt, not_and, ne_eq]

end Table

-- ======================================================== downloads

/-- How a delivery ends once the bytes are written. -/
def Transfer.ending (x : Transfer) : Except Failure Unit :=
  match x.fault with
  | none => .ok ()
  | some fault => .error (.database fault)

namespace Depot

/-- The query of a download, once there is room. -/
private theorem query_newest (h : scene.database.Holds d.table.text t)
    (hout : scene.outage = none) (room : FileTree) :
    ({ scene with files := room } : Scene).query
        (fun db => db.newest d.table.text l) = .ok (t.newest? l) := by
  have hroom : ({ scene with files := room } : Scene).outage = none := hout
  rw [Scene.query_of_outage hroom, h.newest]
  rfl

/-- Where nothing is stored a download makes room. -/
theorem download_none (h : scene.database.Holds d.table.text t)
    (hout : scene.outage = none) (hnone : t.newest? l = none)
    {target : String} {room : FileTree}
    (hroom : makeRoom scene.files target = (room, none)) :
    d.download l target scene
      = ⟨.ok (), { scene with files := room }, [.nothingStored l]⟩ := by
  unfold download fetch
  simp only [hroom, query_newest h hout, hnone]

/-- Where something is stored a download makes room and delivers the
newest record. -/
theorem download_some (h : scene.database.Holds d.table.text t)
    (hout : scene.outage = none) {r : Record}
    (hnew : t.newest? l = some r) {target : String} {room : FileTree}
    (hroom : makeRoom scene.files target = (room, none)) :
    (d.download l target scene).result = (d.deliver r target room).1
      ∧ (d.download l target scene).scene
        = { scene with files := (d.deliver r target room).2 } := by
  unfold download fetch
  simp only [hroom, query_newest h hout, hnew]
  rcases d.deliver r target room with ⟨result, files⟩
  cases result with
  | ok _ => exact ⟨rfl, rfl⟩
  | error failure => exact ⟨rfl, rfl⟩

/-- A delivery writes what the record sends, and then fails if the
transfer did. -/
theorem deliver_cases (d : Depot) (r : Record) (target : String)
    (files : FileTree) :
    (∃ fault,
        files.write target (r.send d.options.chunkBytes).sent
            = .error fault
          ∧ d.deliver r target files = (.error (.io target fault), files))
      ∨ ∃ written,
        files.write target (r.send d.options.chunkBytes).sent = .ok written
          ∧ written.read target
            = .ok (r.send d.options.chunkBytes).sent
          ∧ d.deliver r target files
            = ((r.send d.options.chunkBytes).ending, written) := by
  unfold deliver Transfer.ending
  cases hwrite :
      files.write target (r.send d.options.chunkBytes).sent with
  | error fault => exact .inl ⟨fault, rfl, by simp only [hwrite]⟩
  | ok written =>
      refine .inr ⟨written, rfl, FileTree.read_write hwrite, ?_⟩
      simp only [hwrite]
      cases (r.send d.options.chunkBytes).fault <;> rfl

theorem files_fetch (d : Depot) (l : Location) (target : String)
    (scene : Scene) :
    (d.fetch l target scene).2 = scene.files
      ∨ ∃ r, (d.fetch l target scene).2
        = (d.deliver r target scene.files).2 := by
  unfold fetch
  cases scene.query fun db => db.newest d.table.text l with
  | error failure => exact .inl rfl
  | ok found =>
      cases found with
      | none => exact .inl rfl
      | some r => exact .inr ⟨r, rfl⟩

/-- The files a download leaves: those with room for the target, or
those with something delivered. -/
theorem files_download (d : Depot) (l : Location) (target : String)
    (scene : Scene) :
    (d.download l target scene).scene.files = (makeRoom scene.files target).1
      ∨ ∃ r, (d.download l target scene).scene.files
        = (d.deliver r target (makeRoom scene.files target).1).2 := by
  unfold download
  rcases makeRoom scene.files target with ⟨room, _ | failure⟩
  · have hfetch := d.files_fetch l target { scene with files := room }
    dsimp only
    revert hfetch
    rcases d.fetch l target { scene with files := room } with
      ⟨_ | _ | _, files⟩
    all_goals exact id
  · exact .inl rfl

/-- A download makes directories and files in directories only. -/
theorem grounded_download (d : Depot) (l : Location) (target : String)
    {scene : Scene} (hg : scene.files.Grounded) :
    (d.download l target scene).scene.files.Grounded := by
  have hroom := (grown_makeRoom scene.files target).grounded hg
  rcases d.files_download l target scene with hfiles | ⟨r, hfiles⟩
  · rw [hfiles]
    exact hroom
  · rw [hfiles]
    rcases deliver_cases d r target (makeRoom scene.files target).1 with
      ⟨fault, -, hdeliver⟩ | ⟨written, hwrite, -, hdeliver⟩
    · rw [hdeliver]
      exact hroom
    · rw [hdeliver]
      exact hroom.write hwrite

/-- A description leaves the scene. -/
theorem describe_scene (d : Depot) (l : Location) (scene : Scene) :
    (d.describe l scene).scene = scene := by
  unfold describe
  cases d.lookUp l scene with
  | ok found => rfl
  | error f => rfl

/-- Lookups agree on one record and change nothing.

Where no record is at a location, it is described as nothing, and a
download that has room succeeds: directories above the target may be new
and all else is as it was, a plain target included. Otherwise there is a
record of the largest id. The description is that of this record, and a
download that has room writes what this record sends and fails only if
the transfer or the writing does. On any database and whether they
succeed or fail, a download leaves the database, in a tree where still
everything stands in a directory, and a description leaves all. -/
theorem lookups_agree (h : scene.database.Holds d.table.text t)
    (hout : scene.outage = none) (l : Location) (target : String) :
    ((∀ r ∈ t.records, r.location ≠ l) →
        (d.describe l scene).result = .ok none
          ∧ ∀ room, makeRoom scene.files target = (room, none) →
              (d.download l target scene).result = .ok ()
                ∧ (d.download l target scene).scene
                  = { scene with files := room }
                ∧ FileTree.Grown (above target) scene.files room
                ∧ (scene.files.Grounded → Path.IsPlain target →
                    (room.locate target).toOption
                      = (scene.files.locate target).toOption))
      ∧ ((∃ r ∈ t.records, r.location = l) →
          ∃ r, t.IsNewest l r
            ∧ (d.describe l scene).result = r.toDraft.descriptor.map some
            ∧ (r.send d.options.chunkBytes).Carries r
            ∧ ∀ room, makeRoom scene.files target = (room, none) →
                (∃ fault,
                    room.write target (r.send d.options.chunkBytes).sent
                        = .error fault
                      ∧ (d.download l target scene).result
                        = .error (.io target fault)
                      ∧ (d.download l target scene).scene
                        = { scene with files := room })
                  ∨ ∃ files,
                    room.write target (r.send d.options.chunkBytes).sent
                        = .ok files
                      ∧ files.read target
                        = .ok (r.send d.options.chunkBytes).sent
                      ∧ (d.download l target scene).result
                        = (r.send d.options.chunkBytes).ending
                      ∧ (d.download l target scene).scene
                        = { scene with files := files })
      ∧ ∀ any : Scene,
          (d.download l target any).scene.database = any.database
            ∧ (any.files.Grounded →
              (d.download l target any).scene.files.Grounded)
            ∧ (d.describe l any).scene = any := by
  refine ⟨?nothing, ?newest, fun any => ?kept⟩
  case kept =>
    exact ⟨d.download_database l target any,
      d.grounded_download l target, d.describe_scene l any⟩
  case nothing =>
    intro hnone
    have hnone := Table.newest?_eq_none.mpr hnone
    refine ⟨by rw [describe_eq h hout, hnone]; rfl, fun room hroom => ?_⟩
    have hgrown := grown_makeRoom scene.files target
    rw [hroom] at hgrown
    rw [download_none h hout hnone hroom]
    exact ⟨rfl, rfl, hgrown,
      fun hg hplain => locate_makeRoom hg hplain hroom⟩
  case newest =>
    rintro ⟨s, hs, hsloc⟩
    cases hnew : t.newest? l with
    | none => exact absurd hsloc (Table.newest?_eq_none.mp hnew s hs)
    | some r =>
        refine ⟨r, Table.isNewest_of_newest? hnew, ?_,
          r.send_carries _, fun room hroom => ?_⟩
        · rw [describe_eq h hout, hnew]
          rfl
        · obtain ⟨hresult, hscene⟩ := download_some h hout hnew hroom
          rcases deliver_cases d r target room with
            ⟨fault, hwrite, hdeliver⟩ | ⟨files, hwrite, hread, hdeliver⟩
          · rw [hdeliver] at hresult hscene
            exact .inl ⟨fault, hwrite, hresult, hscene⟩
          · rw [hdeliver] at hresult hscene
            exact .inr ⟨files, hwrite, hread, hresult, hscene⟩

/-- A table with two records at one location. -/
def smallTable : Table where
  name := "t"
  records :=
    [⟨.ofFile ⟨"b", "n"⟩ [1] "{}" 10, 1⟩,
      ⟨.ofFile ⟨"b", "n"⟩ [1, 2, 3] "{}" 20, 2⟩]
  highest := 2

/-- A scene with that table and one file. -/
def tableScene : Scene where
  files := { nodes := [(["f"], .file [7])] }
  database := { tables := [smallTable], hasCounterBook := true }
  now := 0
  host := "h"

/-- The file is at the root. -/
theorem tableScene_grounded : tableScene.files.Grounded where
  workdir := rfl
  parent := by
    intro place name node hn
    have hfile : (["f"] == place ++ [name]) = true := by
      rw [FileTree.node?, if_neg (by simp)] at hn
      by_contra hne
      simp [tableScene, hne] at hn
    have hroot : [] ++ ["f"] = place ++ [name] := by simpa using hfile
    rw [← (List.append_inj' hroot rfl).1]
    rfl

theorem lookups_agree_small :
    let d := (smallStore 0).depot
    (d.describe ⟨"b", "m"⟩ tableScene).result = .ok none
      ∧ (d.download ⟨"b", "m"⟩ "x/f" tableScene).scene
        = { tableScene with
            files := { nodes := [(["f"], .file [7]), (["x"], .directory)] } }
      ∧ ((d.download ⟨"b", "m"⟩ "x/f" tableScene).scene.files.locate
          "x/f").toOption
        = (tableScene.files.locate "x/f").toOption
      ∧ ∃ r, smallTable.IsNewest ⟨"b", "n"⟩ r
        ∧ (d.describe ⟨"b", "n"⟩ tableScene).result
          = r.toDraft.descriptor.map some := by
  intro d
  have h : tableScene.database.Holds d.table.text smallTable :=
    Database.holds_iff.mpr ⟨by decide, by decide⟩
  have hroom : makeRoom tableScene.files "x/f"
      = ({ nodes := [(["f"], .file [7]), (["x"], .directory)] }, none) :=
    Prod.ext (by decide +kernel)
      (Option.isNone_iff_eq_none.mp (by decide +kernel))
  have hnothing := (lookups_agree (d := d) h rfl ⟨"b", "m"⟩ "x/f").1
    (by decide)
  have hnewest := (lookups_agree (d := d) h rfl ⟨"b", "n"⟩ "x/f").2.1
    ⟨_, List.mem_cons_self .., rfl⟩
  obtain ⟨r, hr, hdescribed, -⟩ := hnewest
  obtain ⟨-, hscene, -, htarget⟩ := hnothing.2 _ hroom
  refine ⟨hnothing.1, hscene, ?_, r, hr, hdescribed⟩
  rw [hscene]
  exact htarget tableScene_grounded (by decide +kernel)

end Depot

end FileDepot
