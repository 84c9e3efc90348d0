import Circuitry.Proofs.Text.EditDistance
import Circuitry.Text.Suggestion

/-!
# Suggestions are the nearest candidates

Candidates are told apart by their positions, so that one offered twice is suggested twice. Those within the distance
have one order, by the least number of edits and then by position. Sorting by distance alone comes to that order,
because what is equally near stays as it was, and a suggestion is where it begins.
-/

set_option autoImplicit false

namespace Circuitry.Text

/-! ### Stability -/

section Stability

variable {α : Type}

theorem key_trans (key : α → Nat) (a b c : α) (ab : decide (key a ≤ key b) = true)
    (bc : decide (key b ≤ key c) = true) : decide (key a ≤ key c) = true := by
  simp only [decide_eq_true_eq] at ab bc ⊢
  exact ab.trans bc

theorem key_total (key : α → Nat) (a b : α) : (decide (key a ≤ key b) || decide (key b ≤ key a)) = true := by
  simp only [Bool.or_eq_true, decide_eq_true_eq]
  exact le_total _ _

/-- Sorting leaves the items of one key in the order in which they were. -/
theorem filter_mergeSort (key : α → Nat) (value : Nat) (items : List α) :
    ((items.mergeSort fun a b => key a ≤ key b).filter fun item => key item = value) =
      items.filter fun item => key item = value := by
  have alike : (items.filter fun item => key item = value).Pairwise fun a b => decide (key a ≤ key b) = true := by
    refine List.pairwise_filter.2 (List.pairwise_of_forall fun a b is is' => ?_)
    simp only [decide_eq_true_eq] at is is' ⊢
    rw [is, is']
  have kept := (List.sublist_mergeSort (key_trans key) (key_total key) alike List.filter_sublist).filter
    fun item => key item = value
  simp only [List.filter_filter, Bool.and_self] at kept
  exact (kept.eq_of_length ((List.mergeSort_perm items _).filter _).length_eq.symm).symm

/-- Of items in some order, sorting puts those with a smaller key first, and leaves items with the same key in
order. -/
theorem pairwise_mergeSort_key (key : α → Nat) {earlier : α → α → Prop} {items : List α}
    (ordered : items.Pairwise earlier) :
    (items.mergeSort fun a b => key a ≤ key b).Pairwise fun a b =>
      key a < key b ∨ key a = key b ∧ earlier a b := by
  refine List.pairwise_iff_forall_sublist.2 fun {a b} pair => ?_
  have sorted := List.pairwise_mergeSort (key_trans key) (key_total key) items
  have atMost : key a ≤ key b := of_decide_eq_true (List.pairwise_iff_forall_sublist.1 sorted pair)
  refine atMost.lt_or_eq.imp_right fun same => ⟨same, ?_⟩
  have alike := pair.filter fun item => key item = key b
  rw [filter_mergeSort, List.filter_eq_self.2 (by simp [same])] at alike
  exact List.pairwise_iff_forall_sublist.1 ordered (alike.trans List.filter_sublist)

end Stability

/-! ### Ranking -/

/-- The least number of edits that turn a name into a candidate. -/
def edits (name candidate : String) : Nat := distance name.toList candidate.toList

/-- A candidate at a position ranks above another one: it is nearer, or as near and offered earlier. -/
def RanksAbove (name : String) (entry other : String × Nat) : Prop :=
  edits name entry.1 < edits name other.1 ∨ edits name entry.1 = edits name other.1 ∧ entry.2 < other.2

/-- All candidates within a distance, with their positions, in the order of their ranks. -/
structure Ranking (name : String) (candidates : List String) (bound : Nat) (order : List (String × Nat)) : Prop where
  entries : ∀ candidate position, (candidate, position) ∈ order ↔
    candidates[position]? = some candidate ∧ edits name candidate ≤ bound
  ranked : order.Pairwise (RanksAbove name)

variable {name : String} {candidates : List String} {bound : Nat} {order : List (String × Nat)}

theorem RanksAbove.asymm {entry other : String × Nat} (above : RanksAbove name entry other) :
    ¬RanksAbove name other entry := by
  unfold RanksAbove at above ⊢
  omega

namespace Ranking

theorem nodup (ranking : Ranking name candidates bound order) : order.Nodup :=
  ranking.ranked.imp fun above same => (same ▸ above).asymm (same ▸ above)

/-- There is only one ranking. -/
theorem unique {other : List (String × Nat)} (ranking : Ranking name candidates bound order)
    (ranking' : Ranking name candidates bound other) : other = order := by
  have perm : other.Perm order := (List.perm_ext_iff_of_nodup ranking'.nodup ranking.nodup).2 fun entry => by
    rw [ranking.entries, ranking'.entries]
  exact perm.eq_of_pairwise (fun _ _ _ _ above below => absurd below above.asymm) ranking'.ranked ranking.ranked

/-- What is cut off is no nearer than what is kept, and was offered later if it is as near. -/
theorem cut {limit : Nat} {shown : String × Nat} {candidate : String} {position : Nat}
    (ranking : Ranking name candidates bound order) (kept : shown ∈ order.take limit)
    (offered : candidates[position]? = some candidate) (near : edits name candidate ≤ bound)
    (omitted : (candidate, position) ∉ order.take limit) :
    edits name shown.1 ≤ edits name candidate ∧ (edits name shown.1 = edits name candidate → shown.2 < position) := by
  have member := (ranking.entries candidate position).2 ⟨offered, near⟩
  have ranked := ranking.ranked
  rw [← List.take_append_drop limit order] at member ranked
  have above := (List.pairwise_append.1 ranked).2.2 shown kept _ ((List.mem_append.1 member).resolve_left omitted)
  rcases above with nearer | ⟨same, earlier⟩
  · exact ⟨nearer.le, fun same => absurd same nearer.ne⟩
  · exact ⟨same.le, fun _ => earlier⟩

end Ranking

/-! ### Suggestions -/

/-- The candidates within a distance, each with its position. -/
def within (name : String) (candidates : List String) (bound : Nat) : List (String × Nat) :=
  candidates.zipIdx.filter fun entry => edits name entry.1 ≤ bound

theorem length_within (name : String) (candidates : List String) (bound : Nat) :
    (within name candidates bound).length = candidates.countP fun candidate => edits name candidate ≤ bound := by
  conv_rhs => rw [← List.zipIdx_map_fst 0 candidates]
  rw [List.countP_map, List.countP_eq_length_filter, within]
  rfl

/-- Those candidates, sorted by distance alone. -/
def nearest (name : String) (candidates : List String) (bound : Nat) : List (String × Nat) :=
  (within name candidates bound).mergeSort fun entry other => edits name entry.1 ≤ edits name other.1

/-- Sorting by distance alone ranks them. -/
theorem ranking_nearest (name : String) (candidates : List String) (bound : Nat) :
    Ranking name candidates bound (nearest name candidates bound) where
  entries candidate position := by
    simp [nearest, within, List.mem_mergeSort, List.mem_zipIdx_iff_getElem?]
  ranked := by
    have offered : candidates.zipIdx.Pairwise fun entry other => entry.2 < other.2 := by
      rw [← List.pairwise_map (f := Prod.snd), List.zipIdx_map_snd]
      exact List.pairwise_lt_range'
    have kept : (within name candidates bound).Pairwise fun entry other => entry.2 < other.2 :=
      offered.sublist List.filter_sublist
    have ranked := pairwise_mergeSort_key (fun entry => edits name entry.1) kept
    exact ranked

/-- Positions have no part in the sorting. -/
theorem closest_eq (name : String) (candidates : List String) (limit bound : Nat) :
    closest name candidates limit bound = ((nearest name candidates bound).take limit).map Prod.fst := by
  have scored : (candidates.map fun candidate => (editDistance name candidate, candidate)).filter
      (fun entry => entry.1 ≤ bound) =
        (within name candidates bound).map fun entry => (edits name entry.1, entry.1) := by
    conv_lhs => rw [← List.zipIdx_map_fst 0 candidates]
    simp only [List.map_map, List.filter_map, within, edits, editDistance_eq, Function.comp_def]
    rfl
  have sorted : (nearest name candidates bound).map (fun entry => (edits name entry.1, entry.1)) =
      ((within name candidates bound).map fun entry => (edits name entry.1, entry.1)).mergeSort
        fun entry other => entry.1 ≤ other.1 := List.map_mergeSort fun _ _ _ _ => rfl
  rw [closest, scored, ← sorted, ← List.map_take, List.map_map]
  rfl

/-- A suggestion is the beginning of the ranking, cut to the limit. So what is within the distance and not suggested
is no nearer than anything suggested, and was offered later if it is as near. -/
theorem closest_nearest (name : String) (candidates : List String) (limit bound : Nat) :
    ∃ order, Ranking name candidates bound order ∧ (∀ other, Ranking name candidates bound other → other = order) ∧
      closest name candidates limit bound = (order.take limit).map Prod.fst ∧
      (closest name candidates limit bound).length =
        min limit (candidates.countP fun candidate => edits name candidate ≤ bound) ∧
      ∀ shown ∈ order.take limit, ∀ candidate position, candidates[position]? = some candidate →
        edits name candidate ≤ bound → (candidate, position) ∉ order.take limit →
        edits name shown.1 ≤ edits name candidate ∧
          (edits name shown.1 = edits name candidate → shown.2 < position) := by
  have ranking := ranking_nearest name candidates bound
  refine ⟨nearest name candidates bound, ranking, fun _ => ranking.unique, closest_eq name candidates limit bound, ?_,
    fun shown first candidate position offered near omitted => ranking.cut first offered near omitted⟩
  rw [closest_eq, List.length_map, List.length_take, nearest, List.length_mergeSort, length_within]

end Circuitry.Text
