/-!
Texts in order, and the texts that occur more than once.
-/

namespace FrameworkForge.Text

def sorted (texts : List String) : List String :=
  texts.mergeSort fun s t => s ≤ t

def repeated (texts : List String) : List String :=
  sorted (texts.filter fun s => 1 < texts.count s).eraseDups

theorem perm_sorted (texts : List String) : (sorted texts).Perm texts :=
  List.mergeSort_perm _ _

theorem pairwise_sorted (texts : List String) : (sorted texts).Pairwise fun s t => s ≤ t := by
  have hle : (sorted texts).Pairwise fun s t => decide (s ≤ t) = true := by
    refine List.pairwise_mergeSort (fun s t u hst htu => ?_) (fun s t => ?_) texts
    · exact decide_eq_true (String.le_trans (of_decide_eq_true hst) (of_decide_eq_true htu))
    · simpa using String.le_total s t
  exact hle.imp of_decide_eq_true

theorem sorted_congr {texts others : List String} (h : texts.Perm others) :
    sorted texts = sorted others := by
  have hperm : (sorted texts).Perm (sorted others) :=
    (perm_sorted texts).trans (h.trans (perm_sorted others).symm)
  exact hperm.eq_of_pairwise (fun s t _ _ hst hts => String.le_antisymm hst hts)
    (pairwise_sorted _) (pairwise_sorted _)

theorem nodup_eraseDups (texts : List String) : texts.eraseDups.Nodup := by
  match texts with
  | [] => simp
  | s :: texts =>
    rw [List.eraseDups_cons, List.nodup_cons]
    refine ⟨fun hmem => ?_, nodup_eraseDups (texts.filter fun t => !t == s)⟩
    simp [List.mem_eraseDups] at hmem
termination_by texts.length
decreasing_by exact Nat.lt_succ_of_le (List.length_filter_le _ _)

@[simp]
theorem mem_sorted_eraseDups {s : String} {texts : List String} :
    s ∈ sorted texts.eraseDups ↔ s ∈ texts := by
  rw [(perm_sorted _).mem_iff, List.mem_eraseDups]

/-- Every text is listed once. -/
theorem pairwise_sorted_eraseDups (texts : List String) :
    (sorted texts.eraseDups).Pairwise fun s t => s < t := by
  have hnodup : (sorted texts.eraseDups).Nodup :=
    (perm_sorted _).nodup_iff.mpr (nodup_eraseDups texts)
  exact ((pairwise_sorted _).and hnodup).imp fun h => Std.lt_of_le_of_ne h.1 h.2

theorem sorted_eraseDups_congr {texts others : List String}
    (h : ∀ s, s ∈ texts ↔ s ∈ others) : sorted texts.eraseDups = sorted others.eraseDups := by
  apply sorted_congr
  rw [List.perm_ext_iff_of_nodup (nodup_eraseDups texts) (nodup_eraseDups others)]
  intro s
  rw [List.mem_eraseDups, List.mem_eraseDups, h]

end FrameworkForge.Text
