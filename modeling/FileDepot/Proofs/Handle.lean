/-
A handle: a depot that is connected once and serves one command after
another.

Here a command is no more than the operation it stands for, after the
table is provisioned where the settings ask for it (`serve`). What comes
of it is a reply, in which the ways to fail stay apart: the table could
not be provisioned, the operation failed, nothing is stored there. A
list of commands is served on one database (`serveAll`) or on a new one
for each of them (`serveAnew`).

Whatever is served, a scene is only passed on (`Scene.Passes`): the
clock, the host and the connections stay, and the tree is kept. So the
database is found again where it was opened.
-/
import FileDepot.Proofs.Lookup
import FileDepot.Proofs.Provisioning
import FileDepot.Proofs.Reopening
import FileDepot.Proofs.Store
import FileDepot.Run

namespace FileDepot

open CommandLine (Command)

-- ============================================================ handles

/-- How a command went on a handle: what it printed, or why it
failed. -/
inductive Reply where
  | done (output : String)
  | unprovisioned (failure : Failure)
  | failed (failure : Failure)
  | nothing (location : Location)
  deriving DecidableEq, Repr

namespace Reply

/-- An operation without a printed result. -/
def ofResult : Except Failure Unit → Reply
  | .ok () => done ""
  | .error failure => failed failure

/-- The result of a run for a reply. -/
def result : Reply → Except Halt Unit
  | done _ => .ok ()
  | unprovisioned failure => .error (.trouble (.initialising failure))
  | failed failure => .error (.trouble (.operation failure))
  | nothing location => .error (.trouble (.nothingStored location))

/-- What is printed with a reply. -/
def output : Reply → String
  | done output => output
  | _ => ""

end Reply

/-- A command served on a handle: its reply, the scene it leaves and the
events of its operation. -/
structure Served where
  reply : Reply
  scene : Scene
  events : List Event

/-- An operation with its reply. -/
def Outcome.served (out : Outcome α) (reply : Except Failure α → Reply) :
    Served :=
  ⟨reply out.result, out.scene, out.events⟩

namespace Depot

/-- The operation of a command. -/
def operate (d : Depot) (scene : Scene) : Command → Served
  | .store l file => (d.store l file scene).served .ofResult
  | .download l target => (d.download l target scene).served .ofResult
  | .describe l =>
    (d.describe l scene).served fun
      | .ok (some descriptor) => .done (descriptor.pretty ++ "\n")
      | .ok none => .nothing l
      | .error failure => .failed failure
  | .clean bucket days => (d.expire bucket days scene).served .ofResult
  | .initSchema =>
    (d.provision scene).served fun
      | .ok p => .done (Command.provisionLine d.table.text p)
      | .error failure => .failed failure

/-- Serves a command: the table is provisioned first where it is created
on demand. Creating the schema is provisioning and nothing else. -/
def serve (d : Depot) (autoCreate : Bool) (c : Command) (scene : Scene) :
    Served :=
  if autoCreate = true ∧ c ≠ .initSchema then
    let out := d.provision scene
    match out.result with
    | .ok _ => d.operate out.scene c
    | .error failure => ⟨.unprovisioned failure, out.scene, []⟩
  else d.operate scene c

end Depot

/-- A handle: a depot that is connected once and not provisioned. -/
def Settings.handle (s : Settings) (site : Site) : Attempt Mounted :=
  Depot.connect { s with autoCreate := false } site

-- ============================================================= scenes

/-- An operation passes a scene on: the clock, the host and the
connections are left as they were, and the tree is kept. -/
structure Scene.Passes (scene after : Scene) : Prop where
  frame : after
    = { scene with files := after.files, database := after.database }
  kept : FileTree.Kept scene.files after.files

namespace Scene.Passes

variable {scene after later : Scene}

/-- Another database is all that an operation leaves. -/
theorem of_database (scene : Scene) (db : Database) :
    scene.Passes { scene with database := db } :=
  ⟨rfl, .refl _⟩

theorem refl (scene : Scene) : scene.Passes scene := ⟨rfl, .refl _⟩

theorem trans (h : scene.Passes after) (h' : after.Passes later) :
    scene.Passes later where
  frame := by
    rw [h'.frame, h.frame]
  kept := h.kept.trans h'.kept

end Scene.Passes

namespace Depot

theorem passes_provision (d : Depot) (scene : Scene) :
    scene.Passes (d.provision scene).scene := by
  unfold Depot.provision
  rcases provision_reach d.table.text scene with ⟨f, h⟩ | h
  · rw [h]
    exact .refl scene
  · rw [h]
    exact .of_database scene _

theorem passes_store (d : Depot) (l : Location) (file : String)
    (scene : Scene) : scene.Passes (d.store l file scene).scene := by
  have hstoring := d.storing l file scene
  generalize (d.store l file scene).result = result at hstoring
  generalize (d.store l file scene).scene = after at hstoring ⊢
  cases hstoring with
  | unread f hread => exact .refl scene
  | replaced draft p db hread hmode hdel hins => exact .of_database scene db
  | rolledBack draft f hread hmode hf => exact .refl scene
  | inserted draft db hread hmode hins => exact .of_database scene db
  | notInserted draft f hread hmode hf =>
    rw [d.clear_scene l scene]
    exact .of_database scene _

/-- Delivering to a target keeps the room that was made for it. -/
theorem kept_room (d : Depot) (l : Location) (target : String)
    (scene : Scene) :
    FileTree.Kept (makeRoom scene.files target).1
      (d.download l target scene).scene.files := by
  rcases d.files_download l target scene with hfiles | ⟨r, hfiles⟩
  · rw [hfiles]
    exact .refl _
  · rw [hfiles]
    rcases d.deliver_cases r target (makeRoom scene.files target).1 with
      ⟨fault, -, hdeliver⟩ | ⟨written, hwrite, -, hdeliver⟩
    · rw [hdeliver]
      exact .refl _
    · rw [hdeliver]
      exact .write hwrite

theorem passes_download (d : Depot) (l : Location) (target : String)
    (scene : Scene) : scene.Passes (d.download l target scene).scene where
  frame := by
    unfold download
    rcases makeRoom scene.files target with ⟨room, _ | failure⟩
    · dsimp only
      split <;> rfl
    · rfl
  kept :=
    (FileTree.Kept.of_grown (grown_makeRoom scene.files target)).trans
      (d.kept_room l target scene)

theorem passes_expire (d : Depot) (bucket : String) (days : Nat)
    (scene : Scene) : scene.Passes (d.expire bucket days scene).scene := by
  unfold expire
  dsimp only
  split
  · exact .of_database scene _
  · exact .refl scene

/-- Every operation passes the scene on. -/
theorem passes_operate (d : Depot) (scene : Scene) (c : Command) :
    scene.Passes (d.operate scene c).scene := by
  cases c with
  | store l file => exact d.passes_store l file scene
  | download l target => exact d.passes_download l target scene
  | describe l =>
    rw [show (d.operate scene (.describe l)).scene
      = (d.describe l scene).scene from rfl, describe_scene]
    exact .refl scene
  | clean bucket days => exact d.passes_expire bucket days scene
  | initSchema => exact d.passes_provision scene

end Depot

end FileDepot
