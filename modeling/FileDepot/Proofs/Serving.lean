/-
What a depot answers about a location, read off the newest record
there.

`Answers` bundles the two ways of asking: a description and a download
to any target. It speaks of every depot on the table, however its name
is spelt and whatever its options are, and of every scene that has the
database and no outage; so what a database answers is a fact about the
database alone.

A download has a part that is none of the database's business, making
the directories and writing the file. `handOut` is that part as a
function of the bytes that are to arrive; what it says of a transfer is
that all of them are sent.
-/
import FileDepot.Depot.Describe
import FileDepot.Depot.Download
import FileDepot.Proofs.FileTree
import FileDepot.Proofs.Provenance.RoundTrip
import FileDepot.Proofs.Store
import FileDepot.Proofs.Transfer

namespace FileDepot

variable {d : Depot} {l : Location} {scene : Scene} {t : Table}

-- ======================================================= handing out

/-- Hands out some bytes to a target, or nothing: the directories above
the target are made, then the bytes are written as a whole. -/
def handOut (files : FileTree) (target : String) (content : Option Bytes) :
    Except Failure Unit × FileTree :=
  match Depot.makeRoom files target with
  | (room, some failure) => (.error failure, room)
  | (room, none) =>
    match content with
    | none => (.ok (), room)
    | some bytes =>
      match room.write target bytes with
      | .error fault => (.error (.io target fault), room)
      | .ok files => (.ok (), files)

/-- Bytes that were handed out are read at the target. -/
theorem read_handOut {files files' : FileTree} {target : String}
    {bytes : Bytes}
    (h : handOut files target (some bytes) = (.ok (), files')) :
    files'.read target = .ok bytes := by
  unfold handOut at h
  rcases hroom : Depot.makeRoom files target with ⟨room, _ | failure⟩
  · rw [hroom] at h
    cases hwrite : room.write target bytes with
    | error fault =>
        simp only [hwrite, Prod.mk.injEq] at h
        cases h.1
    | ok written =>
        simp only [hwrite, Prod.mk.injEq] at h
        rw [← h.2]
        exact FileTree.read_write hwrite
  · rw [hroom] at h
    cases (Prod.mk.inj h).1

/-- Making room fails on the side of the files. -/
theorem isLocal_of_makeRoom {files room : FileTree} {target : String}
    {failure : Failure}
    (h : Depot.makeRoom files target = (room, some failure)) :
    failure.isLocal = true := by
  unfold Depot.makeRoom at h
  cases hp : Path.parent? target with
  | none => rw [hp] at h; cases (Prod.mk.inj h).2
  | some directory =>
      simp only [hp] at h
      split at h
      · cases (Prod.mk.inj h).2
      · rcases hmake : files.makeDirectories directory with
          ⟨made, _ | fault⟩
        · simp only [hmake, Option.map_none, Prod.mk.injEq] at h
          cases h.2
        · simp only [hmake, Option.map_some, Prod.mk.injEq] at h
          injection h.2 with h
          rw [← h]
          rfl

/-- Handing out fails on the side of the files. -/
theorem isLocal_of_handOut {files files' : FileTree} {target : String}
    {content : Option Bytes} {failure : Failure}
    (h : handOut files target content = (.error failure, files')) :
    failure.isLocal = true := by
  unfold handOut at h
  rcases hroom : Depot.makeRoom files target with ⟨room, _ | fault⟩
  · rw [hroom] at h
    cases content with
    | none => cases (Prod.mk.inj h).1
    | some bytes =>
        cases hwrite : room.write target bytes with
        | error fault =>
            simp only [hwrite, Prod.mk.injEq] at h
            injection h.1 with h
            rw [← h]
            rfl
        | ok written =>
            simp only [hwrite, Prod.mk.injEq] at h
            cases h.1
  · rw [hroom] at h
    injection (Prod.mk.inj h).1 with h
    rw [← h]
    exact isLocal_of_makeRoom hroom

/-- How a download of some bytes, or of nothing, ends: they are handed
out; where it succeeds they are read at the target, and where it fails
that lies with the files. -/
structure Delivered (out : Outcome Unit) (files : FileTree)
    (target : String) (content : Option Bytes) : Prop where
  whole : (out.result, out.scene.files) = handOut files target content
  arrives : ∀ bytes, content = some bytes → out.result = .ok () →
    out.scene.files.read target = .ok bytes
  spares : ∀ failure, out.result = .error failure →
    failure.isLocal = true

/-- It is enough that the bytes are handed out. -/
theorem Delivered.of_handOut {out : Outcome Unit} {files : FileTree}
    {target : String} {content : Option Bytes}
    (h : (out.result, out.scene.files) = handOut files target content) :
    Delivered out files target content where
  whole := h
  arrives := by
    intro bytes hbytes hok
    rw [hok, hbytes] at h
    exact read_handOut h.symm
  spares := by
    intro failure hfail
    rw [hfail] at h
    exact isLocal_of_handOut h.symm

-- ============================================ downloads, descriptions

/-- The descriptor of a record, if there is one. -/
def foundDescriptor (found : Option Record) :
    Except Failure (Option Descriptor) :=
  match found with
  | none => .ok none
  | some r => r.toDraft.descriptor.map some

/-- The descriptor of a record that is found. -/
theorem foundDescriptor_some {r : Record} {descriptor : Descriptor}
    (h : r.toDraft.descriptor = .ok descriptor) :
    foundDescriptor (some r) = .ok (some descriptor) := by
  show r.toDraft.descriptor.map some = _
  rw [h]
  rfl

namespace Depot

/-- A record that knows the size of its payload is delivered whole. -/
theorem deliver_complete {r : Record}
    (hlen : r.length = r.data.length) (target : String)
    (files : FileTree) :
    d.deliver r target files
      = match files.write target r.data with
        | .error fault => (.error (.io target fault), files)
        | .ok files => (.ok (), files) := by
  unfold deliver
  cases hwrite : files.write target r.data with
  | error fault => simp only [Record.send_complete hlen, hwrite]
  | ok files => simp only [Record.send_complete hlen, hwrite]

/-- A download hands out the payload of the newest record. -/
theorem download_eq (h : scene.database.Holds d.table.text t)
    (hout : scene.outage = none)
    (hlen : ∀ r ∈ t.newest? l, r.length = r.data.length)
    (target : String) :
    ((d.download l target scene).result,
        (d.download l target scene).scene.files)
      = handOut scene.files target ((t.newest? l).map fun r => r.data) := by
  unfold download handOut
  rcases makeRoom scene.files target with ⟨room, _ | failure⟩
  · have hfound : ({ scene with files := room } : Scene).query
        (fun db => db.newest d.table.text l) = .ok (t.newest? l) := by
      have hroom : ({ scene with files := room } : Scene).outage = none :=
        hout
      rw [Scene.query_of_outage hroom, h.newest]
      rfl
    dsimp only
    unfold fetch
    rw [hfound]
    cases hnew : t.newest? l with
    | none => rfl
    | some r =>
        dsimp only [Option.map_some]
        rw [deliver_complete (hlen r hnew)]
        cases room.write target r.data with
        | error fault => rfl
        | ok files => rfl
  · rfl

/-- What a description results in is what is looked up. -/
theorem describe_result (d : Depot) (l : Location) (scene : Scene) :
    (d.describe l scene).result = d.lookUp l scene := by
  unfold describe
  cases d.lookUp l scene with
  | ok found => rfl
  | error failure => rfl

/-- A description is that of the newest record. -/
theorem describe_eq (h : scene.database.Holds d.table.text t)
    (hout : scene.outage = none) :
    (d.describe l scene).result = foundDescriptor (t.newest? l) := by
  have hfound : scene.query (fun db => db.described d.table.text l)
      = .ok (t.newest? l) := by
    rw [Scene.query_of_outage hout, h.described]
    rfl
  rw [describe_result]
  unfold lookUp
  rw [hfound]
  cases t.newest? l with
  | none => rfl
  | some r => rfl

end Depot

-- =========================================================== answers

/-- What a database answers about a location in a table, whichever depot
on the table is asked and in whatever scene without an outage. -/
structure Database.Answers (db : Database) (name : String) (l : Location)
    (descriptor : Except Failure (Option Descriptor))
    (content : Option Bytes) : Prop where
  described : ∀ (d : Depot) (scene : Scene),
    sameName d.table.text name = true → scene.database = db →
    scene.outage = none → (d.describe l scene).result = descriptor
  downloaded : ∀ (d : Depot) (scene : Scene) (target : String),
    sameName d.table.text name = true → scene.database = db →
    scene.outage = none →
    Delivered (d.download l target scene) scene.files target content

/-- A database answers from the newest record, where that knows the size
of its payload. -/
theorem Database.Holds.answers {db : Database} {name : String}
    (h : db.Holds name t) (l : Location)
    (hlen : ∀ r ∈ t.newest? l, r.length = r.data.length) :
    db.Answers name l (foundDescriptor (t.newest? l))
      ((t.newest? l).map fun r => r.data) where
  described := by
    intro d scene hn hdb hout
    refine Depot.describe_eq ?_ hout
    rw [hdb]
    exact h.respell hn
  downloaded := by
    intro d scene target hn hdb hout
    refine .of_handOut (Depot.download_eq ?_ hout hlen target)
    rw [hdb]
    exact h.respell hn

-- ============================================= what is described

/-- The instants between the first and the last. -/
def Calendar.InRange (millis : Int) : Prop :=
  Calendar.Instant.minMillis ≤ millis
    ∧ millis ≤ Calendar.Instant.maxMillis

instance (millis : Int) : Decidable (Calendar.InRange millis) :=
  inferInstanceAs (Decidable (_ ∧ _))

/-- The instant of a count of milliseconds in range. -/
def Calendar.Instant.ofMillis (millis : Int) : Calendar.Instant :=
  ⟨millis / 1000, (millis % 1000).toNat * 1000000⟩

/-- A millisecond in range names its instant. -/
theorem Calendar.InRange.ofMillis? {millis : Int}
    (h : Calendar.InRange millis) :
    Calendar.Instant.ofMillis? millis
      = some (Calendar.Instant.ofMillis millis) := by
  unfold Calendar.Instant.ofMillis?
  rw [if_pos (show _ ∧ _ from h)]
  rfl

/-- An instant keeps the milliseconds it was named by. -/
theorem Calendar.Instant.millis_ofMillis (millis : Int) :
    (Calendar.Instant.ofMillis millis).millis = millis := by
  unfold Calendar.Instant.millis Calendar.Instant.ofMillis
  have hfrac : (millis % 1000).toNat * 1000000 / 1000000
      = (millis % 1000).toNat := Nat.mul_div_cancel _ (by omega)
  dsimp only
  rw [hfrac]
  omega

/-- A record with a size, a time in range and metadata that can be read
is described by these. -/
theorem Draft.descriptor_ok {d : Draft} {provenance : Provenance}
    (hlen : d.length = d.data.length)
    (hclock : Calendar.InRange d.modifiedMillis)
    (hmeta : Provenance.decode d.metadata = .ok provenance) :
    d.descriptor
      = .ok ⟨d.data.length, .ofMillis d.modifiedMillis, provenance⟩ := by
  unfold Draft.descriptor
  rw [if_neg (by rw [hlen]; omega), hclock.ofMillis?, hlen]
  dsimp only
  rw [hmeta]
  rfl

end FileDepot
