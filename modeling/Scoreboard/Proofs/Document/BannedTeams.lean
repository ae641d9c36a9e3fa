import Scoreboard.Document.CurrentState

/-! The banned teams of a state, as those who follow the state get to see them. -/

namespace Scoreboard

variable {x y : Int64} {list : List Int64}

/-- Putting a number into its place adds that number and no other. -/
theorem mem_insertAscending : x ∈ insertAscending y list ↔ x = y ∨ x ∈ list := by
  induction list with
  | nil => simp [insertAscending]
  | cons first rest ih => grind [insertAscending]

/-- A number that is put into its place leaves the list in order. -/
theorem insertAscending_pairwise (ordered : list.Pairwise (· < ·)) :
    (insertAscending x list).Pairwise (· < ·) := by
  -- The induction is on the list, and its first number tells where the new one belongs.
  induction list with
  | nil => exact List.pairwise_singleton _ _
  | cons first rest ih =>
    obtain ⟨above, behind⟩ := List.pairwise_cons.mp ordered
    rw [insertAscending]
    split
    · -- The number is below the first one, and so below all others.
      rename_i below
      refine List.pairwise_cons.mpr ⟨fun other member => ?_, ordered⟩
      rcases List.mem_cons.mp member with rfl | later
      · exact below
      · exact Int64.lt_trans below (above other later)
    · split
      · exact ordered
      · rename_i notBelow other
        refine List.pairwise_cons.mpr ⟨fun later member => ?_, ih behind⟩
        rcases mem_insertAscending.mp member with rfl | inside
        · exact Int64.lt_of_le_of_ne (Int64.not_lt.mp notBelow) (Ne.symm other)
        · exact above later inside

/-- Numbers put into their places one by one are those that come and those that were there. -/
theorem mem_foldl_insertAscending {numbers : List Int64} :
    x ∈ numbers.foldl (fun set number => insertAscending number set) list ↔
      x ∈ numbers ∨ x ∈ list := by
  -- The induction is on the numbers that come.
  induction numbers generalizing list with
  | nil => simp
  | cons first rest ih =>
    rw [List.foldl_cons, ih, mem_insertAscending, List.mem_cons, or_left_comm, or_assoc]

/-- Numbers put into their places one by one leave the list in order. -/
theorem foldl_insertAscending_pairwise {numbers : List Int64} (ordered : list.Pairwise (· < ·)) :
    (numbers.foldl (fun set number => insertAscending number set) list).Pairwise (· < ·) := by
  induction numbers generalizing list with
  | nil => exact ordered
  | cons first rest ih => exact ih (insertAscending_pairwise ordered)

/-- The banned teams are the ones that the state lists. -/
theorem CurrentState.mem_bannedSet {current : CurrentState} {team : TeamId} :
    team ∈ current.bannedSet ↔ ∃ teams, current.bannedTeams = some teams ∧ team ∈ teams := by
  rw [bannedSet, mem_foldl_insertAscending]
  cases current.bannedTeams <;> simp

/-- The banned teams are in ascending order, so each is there once. -/
theorem CurrentState.bannedSet_ascending (current : CurrentState) :
    current.bannedSet.Pairwise (· < ·) :=
  foldl_insertAscending_pairwise .nil

end Scoreboard
