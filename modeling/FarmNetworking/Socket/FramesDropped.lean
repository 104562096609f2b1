import FarmNetworking.Foundation.Reads
import FarmNetworking.Socket.PFringHandler

/-!
# The number of frames dropped

`GetFramesDropped` of the PF_RING back end adds up the drop counts of all rings.
The loop has one structure for the statistics and does not look at the result of
the query, so a ring whose query fails adds the drops of a ring before it again.
-/

namespace FarmNetworking
namespace Socket
namespace PFringHandler

open Foundation Reads

structure PfringStat where
  recv : UInt64
  drop : UInt64

/-- What the library does when it is asked for the statistics of a ring. -/
inductive StatsAnswer where
  | success (stats : PfringStat)
  /-- The result is negative, and the structure is left as it is. -/
  | failure (code : Nat)

/-- A `PFring` object, whose pointer to the ring may be null. -/
structure PFring where
  ring : Option StatsAnswer

def pfringStats (answer : StatsAnswer) (stats : PfringStat) : Int × PfringStat :=
  match answer with
  | .success new => (0, new)
  | .failure code => (Int.negSucc code, stats)

def PFring.getStats (r : PFring) (stats : PfringStat) : Int × PfringStat :=
  match r.ring with
  | some answer => pfringStats answer stats
  | none => (-1, stats)

/-- The number of queues fits a byte, so that the counter does not wrap. -/
def droppedLoop : List PFring -> PfringStat -> UInt64 -> UInt64
  | [], _, dropped => dropped
  | r :: rest, stats, dropped =>
      let (_, stats) := r.getStats stats
      droppedLoop rest stats (dropped + stats.drop)

def getFramesDropped (queueRings : List PFring) : UInt64 :=
  droppedLoop queueRings { recv := 0, drop := 0 } 0

/-!
## One query
-/

def PFring.drop? (r : PFring) : Option UInt64 :=
  match r.ring with
  | some (.success stats) => some stats.drop
  | some (.failure _) => none
  | none => none

theorem getStats_spec (r : PFring) (stats : PfringStat) :
    match r.drop? with
    | some drop => 0 ≤ (r.getStats stats).1 ∧ (r.getStats stats).2.drop = drop
    | none => (r.getStats stats).1 < 0 ∧ (r.getStats stats).2 = stats := by
  rcases r with ⟨_ | ⟨new⟩ | ⟨code⟩⟩
  · exact ⟨Int.negSucc_lt_zero 0, rfl⟩
  · exact ⟨Int.le_refl 0, rfl⟩
  · exact ⟨Int.negSucc_lt_zero code, rfl⟩

/-!
## The loop
-/

theorem droppedLoop_toNat (queueRings : List PFring) (stats : PfringStat)
    (dropped : UInt64) :
    (droppedLoop queueRings stats dropped).toNat = (dropped.toNat +
      ((contents stats.drop (queueRings.map PFring.drop?)).map
        UInt64.toNat).sum) % 2 ^ 64 := by
  induction queueRings generalizing stats dropped with
  | nil => exact (Nat.mod_eq_of_lt dropped.toNat_lt).symm
  | cons r rest ih =>
      have hspec := getStats_spec r stats
      rw [droppedLoop, ih, UInt64.toNat_add, List.map_cons]
      cases hdrop : r.drop? with
      | none =>
          rw [hdrop] at hspec
          rw [hspec.right, contents, List.map_cons, List.sum_cons,
            Nat.mod_add_mod, Nat.add_assoc]
      | some drop =>
          rw [hdrop] at hspec
          rw [hspec.right, contents, List.map_cons, List.sum_cons,
            Nat.mod_add_mod, Nat.add_assoc]

def answered (queueRings : List PFring) : List Nat :=
  (queueRings.filterMap PFring.drop?).map UInt64.toNat

/--
For each ring whose query fails, the drop count of the last ring before it whose
query succeeds.
-/
def repeated (queueRings : List PFring) : List Nat :=
  (stale 0 (queueRings.map PFring.drop?)).map UInt64.toNat

theorem mem_repeated_iff {queueRings : List PFring} {drops : Nat} :
    drops ∈ repeated queueRings <-> exists before r after,
      queueRings = before ++ r :: after ∧ r.drop? = none ∧
        (lastRead 0 (before.map PFring.drop?)).toNat = drops := by
  rw [repeated, List.mem_map]
  constructor
  · rintro ⟨drop, hstale, rfl⟩
    rcases mem_stale_iff.mp hstale with ⟨front, back, hreads, rfl⟩
    rcases List.map_eq_append_iff.mp hreads with
      ⟨before, others, rfl, rfl, hothers⟩
    rcases List.map_eq_cons_iff.mp hothers with ⟨r, after, rfl, hnone, rfl⟩
    exact ⟨before, r, after, rfl, hnone, rfl⟩
  · rintro ⟨before, r, after, rfl, hnone, rfl⟩
    refine ⟨_, mem_stale_iff.mpr ⟨before.map PFring.drop?,
      after.map PFring.drop?, ?_, rfl⟩, rfl⟩
    rw [List.map_append, List.map_cons, hnone]

theorem getFramesDropped_toNat (queueRings : List PFring) :
    (getFramesDropped queueRings).toNat =
      ((answered queueRings).sum + (repeated queueRings).sum) % 2 ^ 64 := by
  have hanswered : (queueRings.map PFring.drop?).reduceOption =
      queueRings.filterMap PFring.drop? := by
    rw [List.reduceOption, List.filterMap_map]
    rfl
  rw [getFramesDropped, droppedLoop_toNat, sum_contents, hanswered]
  show (0 + _) % _ = _
  rw [Nat.zero_add]
  rfl

theorem getFramesDropped_of_answers {queueRings : List PFring}
    (h : forall r, r ∈ queueRings -> r.drop? ≠ none) :
    (getFramesDropped queueRings).toNat =
      (answered queueRings).sum % 2 ^ 64 := by
  have hnone : none ∉ queueRings.map PFring.drop? := by
    intro hmem
    rcases List.mem_map.mp hmem with ⟨r, hr, hdrop⟩
    exact h r hr hdrop
  rw [getFramesDropped_toNat, repeated, stale_eq_nil_iff.mpr hnone]
  rfl

def SumsAnswered (queueRings : List PFring) : Prop :=
  (getFramesDropped queueRings).toNat = (answered queueRings).sum % 2 ^ 64

theorem sumsAnswered_iff (queueRings : List PFring) :
    SumsAnswered queueRings <-> 2 ^ 64 ∣ (repeated queueRings).sum := by
  rw [SumsAnswered, getFramesDropped_toNat]
  constructor
  · intro h
    exact (Nat.modEq_zero_iff_dvd).mp (Nat.ModEq.add_left_cancel' _ h)
  · intro h
    exact Nat.ModEq.add_left _ ((Nat.modEq_zero_iff_dvd).mpr h)

/-- One ring has dropped five frames; the query of the next one fails. -/
theorem failedQuery_counts_twice :
    ¬SumsAnswered [{ ring := some (.success { recv := 100, drop := 5 }) },
      { ring := some (.failure 0) }] := by
  rw [SumsAnswered]
  decide

end PFringHandler
end Socket
end FarmNetworking
