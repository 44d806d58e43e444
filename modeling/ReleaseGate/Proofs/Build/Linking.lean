/-
# Proofs.Build.Linking — filled bytecode holds no placeholder

Placeholders may overlap: underscores may stand inside of one, so the next may begin
before it ends. Filling goes over the text once, from left to right (`Fills`): where
a placeholder begins, forty characters become zeros and are not looked at again;
any other character stays. A placeholder begins and ends with underscores, so none
reaches into the zeros from either side, and one that stands between them stood
there before (`Fills.take_eq`).

* `link_leaves_none`: what becomes of every text.
-/
import ReleaseGate.Proofs.Build.Placeholders

namespace ReleaseGate.Build

set_option autoImplicit false

/-! ## One pass -/

/-- The characters that a placeholder is filled with. -/
def filling : List Char := List.replicate placeholderLength '0'

/-- A pass over a text: a placeholder is filled as a whole, and where none begins the
character is kept. -/
inductive Fills : List Char → List Char → Prop
  | done : Fills [] []
  | fill {marker text filled : List Char} :
      IsPlaceholder marker → Fills text filled → Fills (marker ++ text) (filling ++ filled)
  | keep {c : Char} {text filled : List Char} :
      ¬ IsPlaceholder ((c :: text).take placeholderLength) → Fills text filled →
        Fills (c :: text) (c :: filled)

theorem fill_inside (front rest : List Char) :
    fill front.length (front ++ rest) = List.replicate front.length '0' ++ fill 0 rest := by
  induction front with
  | nil => rfl
  | cons c more ih =>
      rw [List.cons_append, List.length_cons, List.replicate_succ, List.cons_append, ← ih]
      rfl

/-- A placeholder at the start is filled. -/
theorem IsPlaceholder.fill_append {marker : List Char} (stands : IsPlaceholder marker)
    (rest : List Char) : fill 0 (marker ++ rest) = filling ++ fill 0 rest := by
  have starts := stands.starts rest
  have length := stands.length
  cases marker with
  | nil => cases length
  | cons c more =>
      have inside : placeholderLength - 1 = more.length := by
        rw [← length, List.length_cons, Nat.add_sub_cancel]
      rw [List.cons_append] at starts ⊢
      rw [fill, if_pos starts, inside, fill_inside, filling, ← length]
      rfl

theorem fill_cons {c : Char} {rest : List Char}
    (free : ¬ IsPlaceholder ((c :: rest).take placeholderLength)) :
    fill 0 (c :: rest) = c :: fill 0 rest := by
  rw [fill, if_neg (mt startsPlaceholder_iff.1 free)]

theorem fills_fill (text : List Char) : Fills text (fill 0 text) := by
  induction length : text.length using Nat.strongRecOn generalizing text with
  | ind n ih =>
      cases text with
      | nil => exact .done
      | cons c rest =>
          rw [List.length_cons] at length
          by_cases stands : IsPlaceholder ((c :: rest).take placeholderLength)
          · have shorter : ((c :: rest).drop placeholderLength).length < n := by
              simp only [List.length_drop, List.length_cons, placeholderLength]
              omega
            have filled := Fills.fill stands (ih _ shorter _ rfl)
            rwa [← stands.fill_append, List.take_append_drop] at filled
          · rw [fill_cons stands]
            exact .keep stands (ih rest.length (by omega) rest rfl)

theorem getElem?_filling_append (filled : List Char) {k : Nat} (inside : k < placeholderLength) :
    (filling ++ filled)[k]? = some '0' := by
  rw [List.getElem?_append_left (by rwa [filling, List.length_replicate]), filling,
    List.getElem?_replicate, if_pos inside]

namespace Fills

variable {text filled : List Char}

/-- Up to an underscore near the start nothing was filled. -/
theorem take_eq (fills : Fills text filled) {n : Nat} (near : n < placeholderLength)
    (underscore : filled[n]? = some '_') : filled.take (n + 1) = text.take (n + 1) := by
  induction fills generalizing n with
  | done => rfl
  | fill _ _ _ =>
      rw [getElem?_filling_append _ near] at underscore
      cases underscore
  | keep _ _ ih =>
      cases n with
      | zero => rfl
      | succ n =>
          rw [List.take_succ_cons, List.take_succ_cons, ih (Nat.lt_of_succ_lt near) underscore]

theorem holds_filling_append (filled : List Char) :
    holdsPlaceholder (filling ++ filled) = holdsPlaceholder filled := by
  have zeros (n : Nat) :
      holdsPlaceholder (List.replicate n '0' ++ filled) = holdsPlaceholder filled := by
    induction n with
    | zero => rfl
    | succ n ih => exact ih
  exact zeros placeholderLength

/-- No placeholder is left. -/
theorem holds_eq_false (fills : Fills text filled) : holdsPlaceholder filled = false := by
  induction fills with
  | done => rfl
  | fill _ _ ih => rw [holds_filling_append, ih]
  | @keep c text filled free fills ih =>
      rw [holdsPlaceholder, ih, Bool.or_false, ← Bool.not_eq_true, startsPlaceholder_iff]
      intro stands
      -- The last of the forty characters is the 39th after the first.
      have ends : filled[38]? = some '_' := by
        obtain ⟨body, shape, length, -⟩ := stands
        have last : ((c :: filled).take placeholderLength)[39]? = some '_' := by
          rw [shape]
          simp [length, placeholderBody]
        simpa [placeholderLength, List.getElem?_take] using last
      have same := fills.take_eq (by decide) ends
      refine free ?_
      rw [placeholderLength, List.take_succ_cons] at stands ⊢
      rwa [← same]

end Fills

theorem fill_of_free {text : List Char} (free : holdsPlaceholder text = false) :
    fill 0 text = text := by
  induction text with
  | nil => rfl
  | cons c rest ih =>
      rw [holdsPlaceholder, Bool.or_eq_false_iff] at free
      rw [fill, if_neg (by simp [free.1]), ih free.2]

/-! ## What was filled -/

/-- Whether `k` lies in one of the stretches of forty that begin at `starts`. -/
def Within (starts : List Nat) (k : Nat) : Prop :=
  ∃ i ∈ starts, i ≤ k ∧ k < i + placeholderLength

instance (starts : List Nat) (k : Nat) : Decidable (Within starts k) :=
  inferInstanceAs (Decidable (∃ i ∈ starts, i ≤ k ∧ k < i + placeholderLength))

/-- A text filled at some places: in each a placeholder stands, they lie apart from
each other, no other placeholder begins outside of them, and nothing else changed. -/
structure FilledAt (text filled : List Char) (starts : List Nat) : Prop where
  apart : starts.Pairwise fun i j => i + placeholderLength ≤ j
  stands : ∀ i ∈ starts, IsPlaceholder ((text.drop i).take placeholderLength)
  covers : ∀ i, IsPlaceholder ((text.drop i).take placeholderLength) → Within starts i
  same : ∀ k, filled[k]? = if Within starts k then some '0' else text[k]?

section Shift

variable {starts : List Nat} {m k : Nat}

theorem within_shift : Within (starts.map (· + m)) (k + m) ↔ Within starts k := by
  simp only [Within, List.mem_map, exists_exists_and_eq_and]
  exact exists_congr fun i => and_congr_right fun _ => by omega

theorem not_within_shift (before : k < m) : ¬ Within (starts.map (· + m)) k := by
  simp only [Within, List.mem_map, exists_exists_and_eq_and]
  rintro ⟨i, -, after, -⟩
  omega

theorem apart_shift (apart : starts.Pairwise fun i j => i + placeholderLength ≤ j) :
    (starts.map (· + m)).Pairwise fun i j => i + placeholderLength ≤ j := by
  rw [List.pairwise_map]
  exact apart.imp fun h => by omega

theorem within_cons : Within (0 :: starts) k ↔ k < placeholderLength ∨ Within starts k := by
  simp [Within]

end Shift

/-- Each pass fills the text at some places. -/
theorem Fills.exists_filledAt {text filled : List Char} (fills : Fills text filled) :
    ∃ starts, FilledAt text filled starts := by
  induction fills with
  | done =>
      refine ⟨[], .nil, by simp, fun i stands => ?_, fun k => by simp [Within]⟩
      have length := stands.length
      simp [placeholderLength] at length
  | @fill marker text filled stands _ ih =>
      obtain ⟨starts, apart, standAt, covers, same⟩ := ih
      have length := stands.length
      have later (i : Nat) : (marker ++ text).drop (i + placeholderLength) = text.drop i := by
        rw [Nat.add_comm, ← List.drop_drop, ← length, List.drop_left]
      refine ⟨0 :: starts.map (· + placeholderLength), ?apart, ?stands, ?covers, ?same⟩
      case apart =>
        refine .cons (fun j member => ?_) (apart_shift apart)
        obtain ⟨i, -, rfl⟩ := List.mem_map.1 member
        omega
      case stands =>
        rw [List.forall_mem_cons, List.forall_mem_map]
        refine ⟨?_, fun i member => ?_⟩
        · rwa [List.drop_zero, ← length, List.take_left]
        · rw [later]
          exact standAt i member
      case covers =>
        intro i found
        rw [within_cons]
        rcases Nat.lt_or_ge i placeholderLength with inside | after
        · exact .inl inside
        · obtain ⟨j, rfl⟩ := Nat.exists_eq_add_of_le' after
          rw [later] at found
          exact .inr (within_shift.2 (covers j found))
      case same =>
        intro k
        rcases Nat.lt_or_ge k placeholderLength with inside | after
        · rw [getElem?_filling_append _ inside, if_pos (within_cons.2 (.inl inside))]
        · obtain ⟨j, rfl⟩ := Nat.exists_eq_add_of_le' after
          have filledLater : (filling ++ filled)[j + placeholderLength]? = filled[j]? := by
            rw [List.getElem?_append_right (by simp [filling])]
            simp [filling]
          have textLater : (marker ++ text)[j + placeholderLength]? = text[j]? := by
            rw [List.getElem?_append_right (by omega), length, Nat.add_sub_cancel]
          have here : Within (0 :: starts.map (· + placeholderLength)) (j + placeholderLength) ↔
              Within starts j := by
            rw [within_cons, within_shift]
            exact or_iff_right (by omega)
          simp only [filledLater, textLater, here, same]
  | @keep c text filled free _ ih =>
      obtain ⟨starts, apart, standAt, covers, same⟩ := ih
      refine ⟨starts.map (· + 1), apart_shift apart, ?stands, ?covers, ?same⟩
      case stands =>
        rw [List.forall_mem_map]
        exact standAt
      case covers =>
        rintro (_ | i) found
        · exact absurd found free
        · exact within_shift.2 (covers i found)
      case same =>
        rintro (_ | k)
        · rw [if_neg (not_within_shift Nat.one_pos)]
          rfl
        · simp only [List.getElem?_cons_succ, within_shift, same]

/-! ## Texts -/

theorem toList_link (text : String) : (link text).toList = fill 0 text.toList :=
  String.toList_ofList

theorem hasPlaceholders_link (text : String) : hasPlaceholders (link text) = false := by
  rw [hasPlaceholders, toList_link]
  exact (fills_fill text.toList).holds_eq_false

theorem link_of_free {text : String} (free : hasPlaceholders text = false) : link text = text := by
  rw [link, fill_of_free free, String.ofList_toList]

theorem Fills.length_bytesOf {text filled : List Char} (fills : Fills text filled) :
    (Text.bytesOf filled).length = (Text.bytesOf text).length := by
  induction fills with
  | done => rfl
  | @fill marker text filled stands _ ih =>
      have zeros : ∀ c ∈ filling, c.toNat < 128 := fun c member => by
        rw [List.eq_of_mem_replicate member]
        decide
      have same : (Text.bytesOf filling).length = (Text.bytesOf marker).length := by
        rw [Text.bytesOf_of_ascii zeros, Text.bytesOf_of_ascii stands.ascii, List.length_map,
          List.length_map, stands.length, filling, List.length_replicate]
      rw [Text.bytesOf_append, Text.bytesOf_append, List.length_append, List.length_append, same,
        ih]
  | @keep c text filled _ _ ih =>
      rw [Text.bytesOf, Text.bytesOf, List.flatMap_cons, List.flatMap_cons, List.length_append,
        List.length_append, Nat.add_left_cancel_iff]
      exact ih

/-- **Linked bytecode holds no placeholder.** To hold one is to match the pattern of
placeholders. A linked text holds none and stays as it is when it is linked again; a
text is as long as before, in bytes, and the same as before exactly if it held none.
What changed are the characters of some placeholders of forty bytes each that lie
apart from each other, all to zeros, and every other placeholder begins in one of
them. -/
theorem link_leaves_none (text : String) :
    (∃ pattern, Pattern.compile "__[A-Za-z0-9_$.:/-]\x7b36\x7d__" = .ok pattern ∧
      (hasPlaceholders text ↔ pattern.isIn text)) ∧
    hasPlaceholders (link text) = false ∧
    link (link text) = link text ∧
    (link text).utf8ByteSize = text.utf8ByteSize ∧
    (link text = text ↔ hasPlaceholders text = false) ∧
    ∃ starts, FilledAt text.toList (link text).toList starts ∧
      ∀ i ∈ starts,
        (String.ofList ((text.toList.drop i).take placeholderLength)).utf8ByteSize = 40 := by
  have fills : Fills text.toList (link text).toList := toList_link text ▸ fills_fill text.toList
  have none_left := hasPlaceholders_link text
  obtain ⟨starts, filledAt⟩ := fills.exists_filledAt
  refine ⟨hasPlaceholders_iff text, none_left, link_of_free none_left, ?bytes,
    ⟨fun same => same ▸ none_left, link_of_free⟩, starts, filledAt, ?forty⟩
  case bytes => rw [Text.utf8ByteSize_eq, Text.utf8ByteSize_eq, fills.length_bytesOf]
  case forty =>
    intro i member
    have stands := filledAt.stands i member
    rw [Text.utf8ByteSize_eq, String.toList_ofList, Text.bytesOf_of_ascii stands.ascii,
      List.length_map, stands.length]
    rfl

/-- Where placeholders overlap the first is filled. -/
example : link (String.ofList (List.replicate 41 '_')) =
    String.ofList (List.replicate 40 '0' ++ ['_']) := by cbv

end ReleaseGate.Build
