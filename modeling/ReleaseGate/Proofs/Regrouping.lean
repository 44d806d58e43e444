/-
# Proofs.Regrouping — the index by contract, put together again

A contract has the run of its own records in each bucket. Written one after the
other in the order of the names, these runs are the bucket again, sorted by
contract with the records of one contract in the order they had. A list in the order
of its keys is known by its run of each key (`eq_of_runs`), and neither sorting nor
joining changes one (`runOf_sortedBy`, `runOf_joined`).

* `byContract_regroups`: which contracts the index knows, and what it holds of each bucket.
-/
import Mathlib.Data.List.Basic
import ReleaseGate.Proofs.Locality

namespace ReleaseGate

set_option autoImplicit false

/-! ## Lists in the order of their keys -/

section Keys

variable {α : Type} {key : α → String} {items items' : List α} {names : List String}

/-- Items in the order of their keys; those with one key stay in the order they had. -/
def sortedBy (key : α → String) (items : List α) : List α :=
  items.mergeSort fun a b => key a ≤ key b

/-- The items with one key, in their order. -/
def runOf (key : α → String) (items : List α) (name : String) : List α :=
  items.filter fun item => key item = name

theorem mem_runOf_iff {name : String} {item : α} :
    item ∈ runOf key items name ↔ item ∈ items ∧ key item = name := by
  simp [runOf]

theorem mem_of_runs (same : ∀ name, runOf key items name = runOf key items' name) {item : α}
    (member : item ∈ items) : item ∈ items' := by
  have own : item ∈ runOf key items (key item) := mem_runOf_iff.2 ⟨member, rfl⟩
  rw [same] at own
  exact (mem_runOf_iff.1 own).1

theorem key_le_of_mem {first : α} {rest : List α}
    (ordered : (first :: rest).Pairwise fun a b => key a ≤ key b) {item : α}
    (member : item ∈ first :: rest) : key first ≤ key item := by
  rcases List.mem_cons.1 member with rfl | later
  · exact String.le_refl _
  · exact List.rel_of_pairwise_cons ordered later

/-- A list in the order of its keys is known by its runs. -/
theorem eq_of_runs (ordered : items.Pairwise fun a b => key a ≤ key b)
    (ordered' : items'.Pairwise fun a b => key a ≤ key b)
    (same : ∀ name, runOf key items name = runOf key items' name) : items = items' := by
  induction items generalizing items' with
  | nil =>
      cases items' with
      | nil => rfl
      | cons first' rest' => cases mem_of_runs (fun name => (same name).symm) List.mem_cons_self
  | cons first rest ih =>
      cases items' with
      | nil => cases mem_of_runs same List.mem_cons_self
      | cons first' rest' =>
          -- Each list has the first item of the other, behind a key that is no larger.
          have there : first ∈ first' :: rest' := mem_of_runs same List.mem_cons_self
          have here : first' ∈ first :: rest :=
            mem_of_runs (fun name => (same name).symm) List.mem_cons_self
          have keys : key first = key first' :=
            String.le_antisymm (key_le_of_mem ordered here) (key_le_of_mem ordered' there)
          have heads := same (key first)
          simp only [runOf, List.filter_cons, ← keys, decide_true, if_true] at heads
          obtain ⟨rfl, -⟩ := List.cons.inj heads
          have tails (name : String) : runOf key rest name = runOf key rest' name := by
            have both := same name
            simp only [runOf, List.filter_cons] at both ⊢
            split at both
            · exact (List.cons.inj both).2
            · exact both
          rw [ih (List.pairwise_cons.1 ordered).2 (List.pairwise_cons.1 ordered').2 tails]

/-- All items of a run stand level. -/
theorem level_runOf (items : List α) (name : String) :
    (runOf key items name).Pairwise fun a b => key a ≤ key b := by
  refine List.pairwise_of_forall_mem_list fun a here b there => ?_
  have level : key a = key b := (mem_runOf_iff.1 here).2.trans (mem_runOf_iff.1 there).2.symm
  exact level ▸ String.le_refl (key a)

theorem runOf_runOf (items : List α) (name name' : String) :
    runOf key (runOf key items name) name' =
      if name' = name then runOf key items name' else [] := by
  split
  · next same =>
      subst same
      simp [runOf, List.filter_filter]
  · next differ =>
      refine List.filter_eq_nil_iff.2 fun item member own => differ ?_
      rw [← of_decide_eq_true own, (mem_runOf_iff.1 member).2]

/-! ## Sorting -/

theorem keyOrder_trans (a b c : α) (first : decide (key a ≤ key b))
    (second : decide (key b ≤ key c)) : decide (key a ≤ key c) := by
  rw [decide_eq_true_eq] at first second ⊢
  exact String.le_trans first second

theorem keyOrder_total (a b : α) : decide (key a ≤ key b) || decide (key b ≤ key a) := by
  rw [Bool.or_eq_true, decide_eq_true_eq, decide_eq_true_eq]
  exact String.le_total _ _

theorem ordered_sortedBy (items : List α) :
    (sortedBy key items).Pairwise fun a b => key a ≤ key b :=
  (List.pairwise_mergeSort keyOrder_trans keyOrder_total items).imp fun related =>
    of_decide_eq_true related

theorem perm_sortedBy (key : α → String) (items : List α) : (sortedBy key items).Perm items :=
  List.mergeSort_perm _ _

/-- Sorting changes no run. -/
theorem runOf_sortedBy (items : List α) (name : String) :
    runOf key (sortedBy key items) name = runOf key items name := by
  have level : (runOf key items name).Pairwise fun a b => decide (key a ≤ key b) :=
    (level_runOf items name).imp fun related => decide_eq_true related
  have kept : (runOf key items name).Sublist (sortedBy key items) :=
    List.sublist_mergeSort keyOrder_trans keyOrder_total level List.filter_sublist
  have inside : (runOf key items name).Sublist (runOf key (sortedBy key items) name) := by
    have again : (runOf key (runOf key items name) name).Sublist
        (runOf key (sortedBy key items) name) := kept.filter _
    rwa [runOf_runOf, if_pos rfl] at again
  have long := ((perm_sortedBy key items).filter fun item => decide (key item = name)).length_eq
  exact (inside.eq_of_length long.symm).symm

/-! ## Joining runs -/

theorem ordered_joined (ascending : names.Pairwise (· < ·)) (items : List α) :
    (names.flatMap (runOf key items)).Pairwise fun a b => key a ≤ key b := by
  refine List.pairwise_flatMap.2 ⟨fun name _ => level_runOf items name, ?_⟩
  refine ascending.imp fun before a here b there => ?_
  rw [(mem_runOf_iff.1 here).2, (mem_runOf_iff.1 there).2]
  exact String.not_lt.1 (String.lt_asymm before)

/-- A joined list has the runs it is made of. -/
theorem runOf_joined (apart : names.Nodup) (items : List α) (name : String) :
    runOf key (names.flatMap (runOf key items)) name =
      if name ∈ names then runOf key items name else [] := by
  induction names with
  | nil => rfl
  | cons first rest ih =>
      obtain ⟨fresh, apart⟩ := List.nodup_cons.1 apart
      have split : runOf key ((first :: rest).flatMap (runOf key items)) name =
          runOf key (runOf key items first) name ++
            runOf key (rest.flatMap (runOf key items)) name := List.filter_append _ _
      rw [split, runOf_runOf, ih apart]
      by_cases same : name = first
      · subst same
        simp [fresh]
      · simp [same]

/-- The runs of all keys, joined in the order of the keys, are the sorted list. -/
theorem joined_eq_sortedBy (ascending : names.Pairwise (· < ·))
    (covers : ∀ item ∈ items, key item ∈ names) :
    names.flatMap (runOf key items) = sortedBy key items := by
  have apart : names.Nodup := ascending.imp fun before => String.ne_of_lt before
  refine eq_of_runs (ordered_joined ascending items) (ordered_sortedBy items) fun name => ?_
  rw [runOf_joined apart, runOf_sortedBy]
  split
  · rfl
  · next unknown =>
      refine (List.filter_eq_nil_iff.2 fun item member own => unknown ?_).symm
      rw [← of_decide_eq_true own]
      exact covers item member

end Keys

/-! ## The index by contract -/

/-- Whether parts, listed under contract names, are what a bucket falls apart into. -/
structure FallsApart {α : Type} (contract : α → String) (bucket : List α)
    (parts : List (String × List α)) : Prop where
  /-- Each part is the run of its contract in the bucket. -/
  own : ∀ part ∈ parts, part.2 = runOf contract bucket part.1
  /-- Joined in their order, the parts are the bucket, sorted by contract. -/
  joined : (parts.flatMap fun part => part.2) = sortedBy contract bucket
  /-- The parts hold the records of the bucket, each as often as the bucket does. -/
  perm : (parts.flatMap fun part => part.2).Perm bucket

theorem FallsApart.of_own {α : Type} {contract : α → String} {bucket : List α}
    {parts : NameMap (List α)}
    (own : ∀ part ∈ parts.toList, part.2 = runOf contract bucket part.1)
    (covers : ∀ record ∈ bucket, contract record ∈ parts.names) :
    FallsApart contract bucket parts.toList := by
  have ascending : parts.names.Pairwise (· < ·) := List.pairwise_map.2 parts.ascending
  have joined : (parts.toList.flatMap fun part => part.2) = sortedBy contract bucket :=
    calc (parts.toList.flatMap fun part => part.2)
        = parts.toList.flatMap fun part => runOf contract bucket part.1 :=
          List.flatMap_congr own
      _ = parts.names.flatMap (runOf contract bucket) :=
          (List.flatMap_map _ _ _).symm
      _ = sortedBy contract bucket := joined_eq_sortedBy ascending covers
  exact ⟨own, joined, joined ▸ perm_sortedBy contract bucket⟩

namespace Buckets

/-- A contract is in the index exactly if some bucket has a record of it. -/
theorem mem_names_byContract_iff {b : Buckets} {name : String} :
    name ∈ b.byContract.names ↔ ∃ record ∈ b.toList, record.contract = name := by
  have known : (b.byContract.get? name).isSome ↔ ¬ (b.named name).isEmpty := by
    rw [get?_byContract]
    split
    · next empty => simp [empty]
    · next used => simp [used]
  rw [NameMap.mem_names_iff, known, isEmpty_named_iff]
  simp only [not_forall, Decidable.not_not, exists_prop]

/-- What the index holds of a contract is the contract's part of each bucket. -/
theorem eq_named_of_mem {b own : Buckets} {name : String}
    (member : (name, own) ∈ b.byContract.toList) : own = b.named name ∧ ¬ own.isEmpty := by
  rw [NameMap.mem_toList_iff, get?_byContract] at member
  split at member
  · cases member
  · next used =>
      obtain rfl := Option.some.inj member
      exact ⟨rfl, used⟩

/-- One bucket falls apart into what the index holds of it. -/
theorem fallsApart_byContract {α : Type} {b : Buckets} {bucket : Buckets → List α}
    {contract : α → String}
    (part : ∀ name, bucket (b.named name) = runOf contract (bucket b) name)
    (known : ∀ record ∈ bucket b, contract record ∈ b.byContract.names) :
    FallsApart contract (bucket b) (b.byContract.map bucket).toList := by
  refine .of_own ?own ?covers
  case own =>
    intro entry member
    obtain ⟨⟨name, own⟩, held, rfl⟩ := List.mem_map.1 member
    rw [(eq_named_of_mem held).1]
    exact part name
  case covers =>
    rw [NameMap.names_map]
    exact known

/-- **The index by contract loses and reorders nothing.** It knows exactly the contracts
that have a record in some bucket, and holds something of each. What it holds of a
bucket are the runs of the contracts in this bucket; joined in the order of the names they
are the bucket, sorted by contract with the records of one contract in their order. -/
theorem byContract_regroups (b : Buckets) :
    (∀ name, name ∈ b.byContract.names ↔
      (∃ layout ∈ b.storage, layout.contract = name) ∨
        (∃ change ∈ b.major, change.contract = name) ∨
          (∃ change ∈ b.minor, change.contract = name) ∨
            ∃ change ∈ b.patch, change.contract = name) ∧
    (∀ entry ∈ b.byContract.toList, entry.2.isEmpty = false) ∧
    FallsApart LayoutVerdict.contract b.storage (b.byContract.map storage).toList ∧
    FallsApart Change.contract b.major (b.byContract.map major).toList ∧
    FallsApart Change.contract b.minor (b.byContract.map minor).toList ∧
    FallsApart Change.contract b.patch (b.byContract.map patch).toList := by
  have names (name : String) : name ∈ b.byContract.names ↔
      (∃ layout ∈ b.storage, layout.contract = name) ∨
        (∃ change ∈ b.major, change.contract = name) ∨
          (∃ change ∈ b.minor, change.contract = name) ∨
            ∃ change ∈ b.patch, change.contract = name := by
    rw [mem_names_byContract_iff]
    simp [toList, or_and_right, exists_or, Sorted.contract]
  refine ⟨names, fun entry member => Bool.eq_false_iff.2 (eq_named_of_mem member).2,
    fallsApart_byContract (fun _ => rfl) fun layout member => (names _).2 (.inl ⟨_, member, rfl⟩),
    fallsApart_byContract (fun _ => rfl) fun change member =>
      (names _).2 (.inr (.inl ⟨_, member, rfl⟩)),
    fallsApart_byContract (fun _ => rfl) fun change member =>
      (names _).2 (.inr (.inr (.inl ⟨_, member, rfl⟩))),
    fallsApart_byContract (fun _ => rfl) fun change member =>
      (names _).2 (.inr (.inr (.inr ⟨_, member, rfl⟩)))⟩

/-- Records of three contracts, mixed up and partly told twice. -/
def tangled : Buckets where
  storage := [⟨"Pool", false⟩, ⟨"Bank", true⟩, ⟨"Pool", false⟩]
  major := [⟨"Token", "removed", []⟩, ⟨"Bank", "removed", []⟩, ⟨"Token", "removed", []⟩,
    ⟨"Token", "renamed", []⟩]
  minor := []
  patch := [⟨"Bank", "body", []⟩]

/-- The bank comes first, and what was told twice stands twice. -/
theorem byContract_regroups_tangled :
    "Pool" ∈ tangled.byContract.names ∧
    ("Bank", tangled.named "Bank") ∈ tangled.byContract.toList ∧
    (tangled.named "Bank").isEmpty = false ∧
    sortedBy Change.contract tangled.major =
      [⟨"Bank", "removed", []⟩, ⟨"Token", "removed", []⟩, ⟨"Token", "removed", []⟩,
        ⟨"Token", "renamed", []⟩] := by
  obtain ⟨names, used, storage, major, -⟩ := byContract_regroups tangled
  have bank : ("Bank", tangled.named "Bank") ∈ tangled.byContract.toList := by
    rw [NameMap.mem_toList_iff]
    rfl
  have pool : ∃ layout ∈ tangled.storage, layout.contract = "Pool" :=
    ⟨_, List.mem_cons_self, rfl⟩
  exact ⟨(names _).2 (.inl pool), bank, used _ bank, major.joined.symm.trans rfl⟩

end Buckets

end ReleaseGate
