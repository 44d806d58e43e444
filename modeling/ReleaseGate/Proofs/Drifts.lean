/-
# Proofs.Drifts — what the search for drift finds

The search goes through the new versions once. It stops at the first contract
whose old version cannot be bumped (`detectIn_stops`); if there is none it finds
exactly the contracts that tell another version than they should
(`detectIn_grows`).
-/
import Mathlib.Data.List.Basic
import ReleaseGate.Drift

namespace ReleaseGate.Drift

set_option autoImplicit false

section Search

variable (bumpFor : String → Version.Bump) (previous : NameMap Version)

/-- A contract in both builds whose old version cannot take its bump. -/
def Stops (entry : String × Version) : Prop :=
  ∃ before fault, previous.get? entry.1 = some before ∧
    (bumpFor entry.1).apply before = .error fault

/-- The drift of one contract: it is in both builds, and its new version is not
the old one after its bump. -/
def of? (entry : String × Version) : Option Drift := do
  let before ← previous.get? entry.1
  let expected ← ((bumpFor entry.1).apply before).toOption
  if expected = entry.2 then none else some ⟨entry.1, before, expected, entry.2⟩

variable {bumpFor previous}

/-- A contract that does not stop the search adds its drift to what is found behind it. -/
theorem detectIn_cons {entry : String × Version} (rest : List (String × Version))
    (grows : ¬ Stops bumpFor previous entry) :
    (detectIn bumpFor previous (entry :: rest)).value =
      (detectIn bumpFor previous rest).value.map ((of? bumpFor previous entry).toList ++ ·) := by
  obtain ⟨name, reported⟩ := entry
  have same {α : Type} (x : Except Version.Fault α) : x.map (fun found => found) = x :=
    congrFun Except.map_id x
  cases old : previous.get? name with
  | none => simp [detectIn, of?, old, same]
  | some before =>
      cases bumped : (bumpFor name).apply before with
      | error fault => exact absurd ⟨before, fault, old, bumped⟩ grows
      | ok expected =>
          by_cases told : expected = reported
          · simp [detectIn, of?, old, bumped, told, same, Except.toOption]
          · simp [detectIn, of?, old, bumped, told, Except.toOption]

/-- Where every old version can be bumped, the search finds exactly the drifts. -/
theorem detectIn_grows {entries : List (String × Version)}
    (grows : ∀ entry ∈ entries, ¬ Stops bumpFor previous entry) :
    (detectIn bumpFor previous entries).value =
      .ok (entries.filterMap (of? bumpFor previous)) := by
  induction entries with
  | nil => rfl
  | cons entry rest ih =>
      rw [detectIn_cons rest (grows entry List.mem_cons_self),
        ih fun other member => grows other (List.mem_cons_of_mem _ member)]
      cases found : of? bumpFor previous entry <;> simp [found, Except.map]

/-- The search ends with the fault of the first contract that stops it. -/
theorem detectIn_stops {entries : List (String × Version)}
    (stop : ∃ entry ∈ entries, Stops bumpFor previous entry) :
    ∃ front name reported rest before fault,
      entries = front ++ (name, reported) :: rest ∧
        (∀ entry ∈ front, ¬ Stops bumpFor previous entry) ∧
        previous.get? name = some before ∧ (bumpFor name).apply before = .error fault ∧
        (detectIn bumpFor previous entries).value = .error fault := by
  induction entries with
  | nil => simp at stop
  | cons entry rest ih =>
      by_cases here : Stops bumpFor previous entry
      · obtain ⟨before, fault, old, bumped⟩ := here
        refine ⟨[], entry.1, entry.2, rest, before, fault, rfl, by simp, old, bumped, ?_⟩
        simp [detectIn, old, bumped]
      · have later : ∃ entry ∈ rest, Stops bumpFor previous entry := by
          obtain ⟨other, member, stops⟩ := stop
          rcases List.mem_cons.1 member with rfl | member
          · exact absurd stops here
          · exact ⟨other, member, stops⟩
        obtain ⟨front, name, reported, back, before, fault, split, calm, old, bumped, value⟩ :=
          ih later
        refine ⟨entry :: front, name, reported, back, before, fault, by rw [split]; rfl,
          ?_, old, bumped, ?_⟩
        · intro other member
          rcases List.mem_cons.1 member with rfl | member
          · exact here
          · exact calm other member
        · rw [detectIn_cons rest here, value]
          rfl

/-- A contract drifts unless it is new or tells the version that its bump gives. -/
theorem of?_eq_none_iff {entry : String × Version} (grows : ¬ Stops bumpFor previous entry) :
    of? bumpFor previous entry = none ↔
      ∀ before, previous.get? entry.1 = some before →
        (bumpFor entry.1).apply before = .ok entry.2 := by
  unfold of?
  cases old : previous.get? entry.1 with
  | none => simp
  | some before =>
      cases bumped : (bumpFor entry.1).apply before with
      | error fault => exact absurd ⟨before, fault, old, bumped⟩ grows
      | ok expected => simp [Except.toOption, bumped]

/-- A drift is the drift of one contract: it tells of the contract's versions, and the
one that is expected is not the one that is told. -/
theorem of?_eq_some_iff {entry : String × Version} {d : Drift} :
    of? bumpFor previous entry = some d ↔
      entry = (d.contract, d.reported) ∧ previous.get? d.contract = some d.previous ∧
        (bumpFor d.contract).apply d.previous = .ok d.expected ∧ d.expected ≠ d.reported := by
  constructor
  · intro found
    unfold of? at found
    cases old : previous.get? entry.1 with
    | none => simp [old] at found
    | some before =>
        cases bumped : (bumpFor entry.1).apply before with
        | error fault => simp [old, bumped, Except.toOption] at found
        | ok expected =>
            by_cases told : expected = entry.2
            · simp [old, bumped, told, Except.toOption] at found
            · simp only [old, bumped, told, Except.toOption, Option.bind_eq_bind,
                Option.bind_some, if_false, Option.some.injEq] at found
              cases found
              exact ⟨rfl, old, bumped, told⟩
  · rintro ⟨rfl, old, bumped, differs⟩
    simp [of?, old, bumped, differs, Except.toOption]

end Search

end ReleaseGate.Drift
