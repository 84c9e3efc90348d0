import Circuitry.Record
import Mathlib.Data.List.Forall2
import Mathlib.Data.List.Nodup
import Mathlib.Data.List.Perm.Subperm

/-!
# Matching records

Two records match when they have equally many entries and every entry of the first is related to the entry
of the second under the same name. Types, values and refinements are all compared in this way, so the laws of
matching carry the laws of the relation on entries over to records. Only reflexivity and symmetry need names
to be distinct.
-/

set_option autoImplicit false

namespace Circuitry

variable {α β γ : Type}

/-! ### Optional values compared -/

theorem rel_some {related : α → β → Prop} {item : Option α} {other : Option β} {value : α}
    (pair : Option.Rel related item other) (found : item = some value) :
    ∃ result, other = some result ∧ related value result := by
  subst found
  cases pair with
  | some holds => exact ⟨_, rfl, holds⟩

theorem rel_some_right {related : α → β → Prop} {item : Option α} {other : Option β} {result : β}
    (pair : Option.Rel related item other) (found : other = some result) :
    ∃ value, item = some value ∧ related value result := by
  subst found
  cases pair with
  | some holds => exact ⟨_, rfl, holds⟩

theorem rel_none {related : α → β → Prop} {item : Option α} {other : Option β}
    (pair : Option.Rel related item other) (missing : item = none) : other = none := by
  subst missing
  cases pair
  rfl

theorem rel_imp {related weaker : α → β → Prop} {item : Option α} {other : Option β}
    (pair : Option.Rel related item other)
    (weaken : ∀ value result, item = some value → other = some result → related value result →
      weaker value result) : Option.Rel weaker item other := by
  cases pair with
  | some holds => exact .some (weaken _ _ rfl rfl holds)
  | none => exact .none

/-! ### Lists compared position by position -/

theorem forall₂_imp {related weaker : α → β → Prop} {items : List α} {others : List β}
    (pairs : List.Forall₂ related items others)
    (weaken : ∀ item ∈ items, ∀ other ∈ others, related item other → weaker item other) :
    List.Forall₂ weaker items others := by
  induction pairs with
  | nil => exact .nil
  | cons head _ ih =>
    refine .cons (weaken _ (by simp) _ (by simp) head) (ih fun item member other otherMember => ?_)
    exact weaken item (List.mem_cons_of_mem _ member) other (List.mem_cons_of_mem _ otherMember)

theorem forall₂_trans {related : α → β → Prop} {further : β → γ → Prop} {composed : α → γ → Prop}
    {items : List α} {between : List β} {others : List γ} (first : List.Forall₂ related items between)
    (second : List.Forall₂ further between others)
    (transitive : ∀ item ∈ items, ∀ middle other, related item middle → further middle other →
      composed item other) : List.Forall₂ composed items others := by
  induction first generalizing others with
  | nil =>
    cases second
    exact .nil
  | cons head _ ih =>
    cases second with
    | cons headFurther tailFurther =>
      refine .cons (transitive _ (by simp) _ _ head headFurther) (ih tailFurther fun item member => ?_)
      exact transitive item (List.mem_cons_of_mem _ member)

/-- Every item on the left has a counterpart. -/
theorem forall₂_left {related : α → β → Prop} {items : List α} {others : List β}
    (pairs : List.Forall₂ related items others) {item : α} (member : item ∈ items) :
    ∃ other ∈ others, related item other := by
  induction pairs with
  | nil => cases member
  | cons head _ ih =>
    rcases List.mem_cons.1 member with rfl | later
    · exact ⟨_, by simp, head⟩
    · obtain ⟨other, otherMember, holds⟩ := ih later
      exact ⟨other, List.mem_cons_of_mem _ otherMember, holds⟩

/-- What the relation says of its left side alone holds of every item on the left. -/
theorem forall₂_each {related : α → β → Prop} {sort : α → Prop} {items : List α} {others : List β}
    (pairs : List.Forall₂ related items others) (each : ∀ item other, related item other → sort item) :
    ∀ item ∈ items, sort item := by
  intro item member
  obtain ⟨other, -, holds⟩ := forall₂_left pairs member
  exact each item other holds

theorem forall₂_set {related : α → β → Prop} {items : List α} {others : List β}
    (pairs : List.Forall₂ related items others) (index : Nat) {item : α} {other : β}
    (holds : related item other) : List.Forall₂ related (items.set index item) (others.set index other) := by
  induction pairs generalizing index with
  | nil => exact .nil
  | cons head tail ih =>
    cases index with
    | zero => exact .cons holds tail
    | succ index => exact .cons head (ih index)

/-- What holds of a list holds after one item is replaced. -/
theorem forall_mem_replace {sort : α → Prop} {before after : List α} {item other : α} (holds : sort other)
    (all : ∀ entry ∈ before ++ item :: after, sort entry) : ∀ entry ∈ before ++ other :: after, sort entry := by
  intro entry member
  rcases List.mem_append.1 member with earlier | later
  · exact all entry (by simp [earlier])
  · rcases List.mem_cons.1 later with rfl | later
    · exact holds
    · exact all entry (by simp [later])

/-- Where one item is replaced and the relation is reflexive on the others, the lists are related. -/
theorem forall₂_replace {related : α → α → Prop} {before after : List α} {item other : α}
    (holds : related item other) (reflexive : ∀ entry ∈ before ++ item :: after, related entry entry) :
    List.Forall₂ related (before ++ item :: after) (before ++ other :: after) := by
  induction before with
  | nil => exact .cons holds (List.forall₂_same.2 fun entry member => reflexive entry (by simp [member]))
  | cons head rest ih =>
    exact .cons (reflexive head (by simp)) (ih fun entry member => reflexive entry (by simp_all))

theorem forall₂_getElem? {related : α → β → Prop} {items : List α} {others : List β}
    (pairs : List.Forall₂ related items others) (index : Nat) :
    Option.Rel related items[index]? others[index]? := by
  induction pairs generalizing index with
  | nil => exact .none
  | cons head _ ih =>
    cases index with
    | zero => exact .some head
    | succ index => simpa using ih index

/-! ### Items found by a key -/

section Keys

variable {κ : Type} [DecidableEq κ] {key : α → κ} {items : List α}

/-- Where keys are different, an item is found by its key. -/
theorem find?_key_iff (distinct : (items.map key).Nodup) {wanted : κ} {item : α} :
    (items.find? fun item => key item = wanted) = some item ↔ item ∈ items ∧ key item = wanted := by
  constructor
  · intro found
    exact ⟨List.mem_of_find?_eq_some found, by simpa using List.find?_some found⟩
  · rintro ⟨member, rfl⟩
    obtain ⟨other, found⟩ : ∃ other, (items.find? fun other => key other = key item) = some other :=
      Option.isSome_iff_exists.1 (List.find?_isSome.2 ⟨item, member, decide_eq_true rfl⟩)
    have same : key other = key item := by simpa using List.find?_some found
    rwa [List.inj_on_of_nodup_map distinct (List.mem_of_find?_eq_some found) member same] at found

/-- In whatever order the items are, the same one is found. -/
theorem find?_key_perm {others : List α} (perm : items.Perm others) (distinct : (items.map key).Nodup)
    (wanted : κ) : (items.find? fun item => key item = wanted) = others.find? fun item => key item = wanted := by
  refine Option.ext fun item => ?_
  rw [find?_key_iff distinct, find?_key_iff ((perm.map key).nodup_iff.1 distinct), perm.mem_iff]

/-- The position of a key is that of its item. -/
theorem findIdx?_key_iff (distinct : (items.map key).Nodup) {wanted : κ} {index : Nat} :
    (items.findIdx? fun item => key item = wanted) = some index ↔
      ∃ item, items[index]? = some item ∧ key item = wanted := by
  rw [List.findIdx?_eq_some_iff_getElem]
  constructor
  · rintro ⟨inside, same, -⟩
    exact ⟨_, List.getElem?_eq_getElem inside, of_decide_eq_true same⟩
  · rintro ⟨item, found, rfl⟩
    obtain ⟨inside, rfl⟩ := List.getElem?_eq_some_iff.1 found
    refine ⟨inside, decide_eq_true rfl, fun earlier before same => ?_⟩
    have apart := (List.pairwise_iff_getElem.1 distinct) earlier index (by simp; omega) (by simpa using inside) before
    simp only [List.getElem_map] at apart
    exact apart (of_decide_eq_true same)

end Keys

namespace Record

/-! ### Records compared by name -/

theorem mem_of_lookup {record : List (String × α)} {name : String} {value : α}
    (found : record.lookup name = some value) : (name, value) ∈ record := by
  obtain ⟨before, after, split, -⟩ := List.lookup_eq_some_iff.1 found
  simp [split]

theorem lookup_of_mem {record : List (String × α)} {name : String} {value : α}
    (distinct : (names record).Nodup) (member : (name, value) ∈ record) :
    record.lookup name = some value := by
  induction record with
  | nil => simp at member
  | cons head rest ih =>
    obtain ⟨key, first⟩ := head
    simp only [names, List.map_cons, List.nodup_cons] at distinct
    rcases List.mem_cons.1 member with same | later
    · cases same
      simp
    · have different : name ≠ key := fun same =>
        distinct.1 (same ▸ List.mem_map_of_mem (f := Prod.fst) later)
      rw [List.lookup_cons, beq_false_of_ne different]
      exact ih distinct.2 later

theorem lookup_isSome {record : List (String × α)} {name : String} :
    (record.lookup name).isSome = true ↔ name ∈ names record := by
  simp only [List.lookup_isSome_iff, beq_iff_eq, names, List.mem_map]
  constructor
  · rintro ⟨entry, member, same⟩
    exact ⟨entry, member, same.symm⟩
  · rintro ⟨entry, member, same⟩
    exact ⟨entry, member, same.symm⟩

/-- Every entry of a record is related to the entry of the same name in another one of the same length. -/
def Matches (related : α → β → Prop) (record : List (String × α)) (other : List (String × β)) : Prop :=
  record.length = other.length ∧
    ∀ entry ∈ record, ∃ value, other.lookup entry.1 = some value ∧ related entry.2 value

namespace Matches

variable {related : α → β → Prop} {record : List (String × α)} {other : List (String × β)}

theorem lookup_some (matching : Matches related record other) {name : String} {value : α}
    (found : record.lookup name = some value) :
    ∃ counterpart, other.lookup name = some counterpart ∧ related value counterpart :=
  matching.2 (name, value) (mem_of_lookup found)

theorem imp {stronger : α → β → Prop} (matching : Matches stronger record other)
    (weaken : ∀ entry ∈ record, ∀ value, stronger entry.2 value → related entry.2 value) :
    Matches related record other := by
  refine ⟨matching.1, fun entry member => ?_⟩
  obtain ⟨value, found, holds⟩ := matching.2 entry member
  exact ⟨value, found, weaken entry member value holds⟩

/-- Records that match have the same names. -/
theorem names_subset (matching : Matches related record other) (distinct : (names record).Nodup) :
    names other ⊆ names record := by
  have inside : names record ⊆ names other := by
    intro name member
    obtain ⟨entry, entryMember, rfl⟩ := List.mem_map.1 member
    obtain ⟨value, found, -⟩ := matching.2 entry entryMember
    exact List.mem_map_of_mem (f := Prod.fst) (mem_of_lookup found)
  have permuted : (names record).Perm (names other) :=
    (List.subperm_of_subset distinct inside).perm_of_length_le (by simp [names, matching.1])
  exact permuted.symm.subset

theorem lookup_none (matching : Matches related record other) (distinct : (names record).Nodup)
    {name : String} (missing : record.lookup name = none) : other.lookup name = none := by
  by_contra present
  have listed : name ∈ names other := lookup_isSome.1 (Option.isSome_iff_ne_none.2 present)
  have found := lookup_isSome.2 (matching.names_subset distinct listed)
  simp [missing] at found

/-- Records that match have related values, or none, under every name. -/
theorem lookup (matching : Matches related record other) (distinct : (names record).Nodup) (name : String) :
    Option.Rel related (record.lookup name) (other.lookup name) := by
  cases found : record.lookup name with
  | none =>
    rw [matching.lookup_none distinct found]
    exact .none
  | some value =>
    obtain ⟨counterpart, found', holds⟩ := matching.lookup_some found
    rw [found']
    exact .some holds

protected theorem refl {related : α → α → Prop} {record : List (String × α)}
    (distinct : (names record).Nodup) (reflexive : ∀ entry ∈ record, related entry.2 entry.2) :
    Matches related record record :=
  ⟨rfl, fun entry member => ⟨entry.2, lookup_of_mem distinct member, reflexive entry member⟩⟩

/-- A record matches its reorderings. -/
theorem of_perm {related : α → α → Prop} {record other : List (String × α)} (perm : record.Perm other)
    (distinct : (names record).Nodup) (reflexive : ∀ entry ∈ record, related entry.2 entry.2) :
    Matches related record other := by
  refine ⟨perm.length_eq, fun entry member => ⟨entry.2, ?_, reflexive entry member⟩⟩
  exact lookup_of_mem ((perm.map Prod.fst).nodup_iff.1 distinct) (perm.mem_iff.1 member)

protected theorem symm {converse : β → α → Prop} (matching : Matches related record other)
    (distinct : (names record).Nodup) (distinctOther : (names other).Nodup)
    (symmetric : ∀ entry ∈ record, ∀ value, (entry.1, value) ∈ other → related entry.2 value →
      converse value entry.2) : Matches converse other record := by
  refine ⟨matching.1.symm, fun entry member => ?_⟩
  have listed : entry.1 ∈ names record :=
    matching.names_subset distinct (List.mem_map_of_mem (f := Prod.fst) member)
  obtain ⟨value, found⟩ := Option.isSome_iff_exists.1 (lookup_isSome.2 listed)
  obtain ⟨counterpart, foundOther, holds⟩ := matching.lookup_some found
  have same : entry.2 = counterpart :=
    Option.some.inj ((lookup_of_mem distinctOther member).symm.trans foundOther)
  exact ⟨value, found, symmetric (entry.1, value) (mem_of_lookup found) entry.2 member (same ▸ holds)⟩

protected theorem trans {further : β → γ → Prop} {composed : α → γ → Prop} {last : List (String × γ)}
    (first : Matches related record other) (second : Matches further other last)
    (transitive : ∀ entry ∈ record, ∀ between value, related entry.2 between → further between value →
      composed entry.2 value) : Matches composed record last := by
  refine ⟨first.1.trans second.1, fun entry member => ?_⟩
  obtain ⟨between, found, holds⟩ := first.2 entry member
  obtain ⟨value, foundLast, holdsLast⟩ := second.lookup_some found
  exact ⟨value, foundLast, transitive entry member between value holds holdsLast⟩

end Matches

/-! ### Records compared entry by entry -/

/-- Two lists of entries have the same names in the same order, and related values. -/
abbrev Aligned (related : α → β → Prop) : List (String × α) → List (String × β) → Prop :=
  List.Forall₂ fun entry other => entry.1 = other.1 ∧ related entry.2 other.2

namespace Aligned

variable {related : α → β → Prop} {record : List (String × α)} {other : List (String × β)}

theorem names_eq (aligned : Aligned related record other) : names record = names other := by
  induction aligned with
  | nil => rfl
  | cons head _ ih => simpa [names] using ⟨head.1, ih⟩

protected theorem insert (aligned : Aligned related record other) {name : String} {value : α} {value' : β}
    (holds : related value value') : Aligned related (insert record name value) (insert other name value') := by
  induction aligned with
  | nil => exact .cons ⟨rfl, holds⟩ .nil
  | @cons entry entry' _ _ head tail ih =>
    obtain ⟨key, old⟩ := entry
    obtain ⟨key', old'⟩ := entry'
    obtain ⟨rfl, heads⟩ := head
    simp only [Record.insert]
    split
    · exact .cons ⟨rfl, holds⟩ tail
    · exact .cons ⟨rfl, heads⟩ ih

/-- Records made of aligned pairs are aligned. -/
protected theorem ofPairs (aligned : Aligned related record other) :
    Aligned related (ofPairs record) (ofPairs other) := by
  unfold Record.ofPairs
  suffices folded : ∀ made made', Aligned related made made' →
      Aligned related (record.foldl (fun record pair => Record.insert record pair.1 pair.2) made)
        (other.foldl (fun record pair => Record.insert record pair.1 pair.2) made') from
    folded [] [] .nil
  induction aligned with
  | nil => exact fun _ _ made => made
  | @cons entry entry' _ _ head _ ih =>
    obtain ⟨name, value⟩ := entry
    obtain ⟨name', value'⟩ := entry'
    obtain ⟨rfl, holds⟩ := head
    exact fun _ _ made => ih _ _ (Aligned.insert made holds)

/-- Aligned records with distinct names match. -/
theorem matches_of_nodup (aligned : Aligned related record other) (distinct : (names record).Nodup) :
    Matches related record other := by
  have distinct' : (names other).Nodup := aligned.names_eq ▸ distinct
  refine ⟨aligned.length_eq, fun entry member => ?_⟩
  obtain ⟨⟨name, value⟩, member', same, holds⟩ := forall₂_left aligned member
  exact ⟨value, lookup_of_mem distinct' (same ▸ member'), holds⟩

end Aligned

/-! ### Records with one value replaced -/

section Replace

variable {before after : List (String × α)} {name : String} {item other : α}

theorem names_replace : names (before ++ (name, item) :: after) = names (before ++ (name, other) :: after) := by
  simp [names]

theorem matches_replace {related : α → α → Prop}
    (distinct : (names (before ++ (name, item) :: after)).Nodup) (holds : related item other)
    (reflexive : ∀ entry ∈ before ++ (name, item) :: after, related entry.2 entry.2) :
    Matches related (before ++ (name, item) :: after) (before ++ (name, other) :: after) :=
  Aligned.matches_of_nodup
    (forall₂_replace ⟨rfl, holds⟩ fun entry member => ⟨rfl, reflexive entry member⟩) distinct

end Replace

end Record

end Circuitry
