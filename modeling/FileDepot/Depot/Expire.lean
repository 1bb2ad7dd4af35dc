/-
Expiry: the records of a bucket that were last changed more than so
many days ago are deleted. A record exactly at the cutoff stays. The
operation has no result; a deletion that fails is only told.
-/
import FileDepot.Depot.Basic

namespace FileDepot

/-- The milliseconds of a day. -/
def millisPerDay : Int := 24 * 60 * 60 * 1000

/-- The time before which records are expired. It is counted in 64 bits
and wraps round where these do not hold it. -/
def cutoff (now : Int) (days : Nat) : Int :=
  (now - days * millisPerDay).bmod 18446744073709551616

/-- That many days before a time are a time in 64 bits. -/
def CutoffFits (now : Int) (days : Nat) : Prop :=
  -9223372036854775808 ≤ now - days * millisPerDay
    ∧ now - days * millisPerDay < 9223372036854775808

instance (now : Int) (days : Nat) : Decidable (CutoffFits now days) :=
  inferInstanceAs (Decidable (_ ∧ _))

theorem CutoffFits.cutoff_eq {now : Int} {days : Nat}
    (h : CutoffFits now days) : cutoff now days = now - days * millisPerDay :=
  Int.bmod_eq_of_le h.1 h.2

/-- Deletes the expired records of a bucket. -/
def Depot.expire (d : Depot) (bucket : String) (days : Nat)
    (scene : Scene) : Outcome Unit :=
  let limit := cutoff scene.now days
  let start := Event.cleaning bucket days limit
  match scene.query fun db => db.deleteExpired d.table.text bucket limit with
  | .ok (count, db) =>
    ⟨.ok (), { scene with database := db }, [start, .cleaned bucket count]⟩
  | .error failure => ⟨.ok (), scene, [start, .cleanFailed bucket failure]⟩

end FileDepot
