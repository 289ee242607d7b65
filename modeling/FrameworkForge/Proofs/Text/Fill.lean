import FrameworkForge.Text.Fill

/-! Filling makes lines of the characters of the text and of blanks, and of no others. -/

namespace FrameworkForge.Text

theorem subset_of_mem_splitAt {α : Type} [DecidableEq α] {separator : α} {cs part : List α}
    (h : part ∈ splitAt separator cs) : part ⊆ cs := by
  induction cs generalizing part with
  | nil =>
    obtain rfl : part = [] := by simpa [splitAt] using h
    exact List.nil_subset _
  | cons c cs ih =>
    rw [splitAt] at h
    split at h
    · rcases List.mem_cons.mp h with rfl | hlater
      · exact List.nil_subset _
      · exact List.subset_cons_of_subset _ (ih hlater)
    · cases hparts : splitAt separator cs with
      | nil =>
        obtain rfl : part = [c] := by simpa [hparts] using h
        simp
      | cons first later =>
        rw [hparts] at h
        rcases List.mem_cons.mp h with rfl | hlater
        · exact List.cons_subset_cons _ (ih (by simp [hparts]))
        · exact List.subset_cons_of_subset _ (ih (by simp [hparts, hlater]))

theorem subset_of_mem_hyphenParts {before cs part : List Char}
    (h : part ∈ hyphenParts before cs) : part ⊆ before ++ cs := by
  induction cs generalizing before part with
  | nil =>
    obtain rfl : part = before := by simpa [hyphenParts] using h
    simp
  | cons c cs ih =>
    rw [hyphenParts] at h
    split at h
    · rcases List.mem_cons.mp h with rfl | hlater
      · simp
      · exact fun d hd => List.mem_append_right _
          (List.mem_cons_of_mem _ (by simpa using ih hlater hd))
    · simpa using ih h

theorem subset_of_mem_pieces {text : String} {piece : Piece} (h : piece ∈ pieces text) :
    piece.text.toList ⊆ text.toList := by
  obtain ⟨word, hword, hpiece⟩ := List.mem_flatMap.mp h
  have hpart : piece.text.toList ∈ hyphenParts [] word := by
    cases hparts : hyphenParts [] word with
    | nil => simp [hparts] at hpiece
    | cons first later =>
      rw [hparts] at hpiece
      rcases List.mem_cons.mp hpiece with rfl | hlater
      · simp
      · obtain ⟨part, hpart, rfl⟩ := List.mem_map.mp hlater
        simp [hpart]
  exact fun c hc => subset_of_mem_splitAt hword (subset_of_mem_hyphenParts hpart hc)

/-- All characters of the text are such. -/
def All (P : Char → Prop) (s : String) : Prop :=
  ∀ c ∈ s.toList, P c

variable {P : Char → Prop}

instance [DecidablePred P] (s : String) : Decidable (All P s) :=
  List.decidableBAll P s.toList

theorem all_append {s t : String} : All P (s ++ t) ↔ All P s ∧ All P t := by
  simp [All, or_imp, forall_and]

theorem All.fill (hblank : P ' ') {indent : String} (hindent : All P indent) (width : Nat) :
    ∀ (later : List Piece) (line : String), All P line → (∀ piece ∈ later, All P piece.text) →
      ∀ filled ∈ fill width indent line later, All P filled := by
  intro later
  induction later with
  | nil =>
    intro line hline _ filled hfilled
    obtain rfl : filled = line := by simpa [Text.fill] using hfilled
    exact hline
  | cons piece later ih =>
    intro line hline hpieces filled hfilled
    obtain ⟨hpiece, hlater⟩ := List.forall_mem_cons.mp hpieces
    obtain ⟨longer, hlonger, hfill⟩ : ∃ longer, All P longer ∧
        Text.fill width indent line (piece :: later) =
          if longer.length ≤ width then Text.fill width indent longer later
          else line :: Text.fill width indent (indent ++ piece.text) later := by
      have hgap : All P (if piece.joined then "" else " ") := by
        split <;> simp [All, hblank]
      exact ⟨_, all_append.mpr ⟨all_append.mpr ⟨hline, hgap⟩, hpiece⟩, rfl⟩
    rw [hfill] at hfilled
    split at hfilled
    · exact ih longer hlonger hlater filled hfilled
    · rcases List.mem_cons.mp hfilled with rfl | hfilled
      · exact hline
      · exact ih _ (all_append.mpr ⟨hindent, hpiece⟩) hlater filled hfilled

theorem All.paragraph (hblank : P ' ') {text : String} (h : All P text) (width : Nat) :
    ∀ line ∈ paragraph width text, All P line := by
  have hpieces : ∀ piece ∈ pieces text, All P piece.text :=
    fun piece hpiece c hc => h c (subset_of_mem_pieces hpiece hc)
  intro line hline
  rw [Text.paragraph] at hline
  cases hparts : pieces text with
  | nil => simp [hparts] at hline
  | cons first later =>
    rw [hparts] at hline hpieces
    obtain ⟨hfirst, hlater⟩ := List.forall_mem_cons.mp hpieces
    exact All.fill hblank (by simp [All]) width later first.text hfirst hlater line hline

end FrameworkForge.Text
