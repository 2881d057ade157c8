import Mathlib.Data.List.Destutter
import Switchboard.Proofs.Settings
import Switchboard.Proofs.Vocabulary
import Switchboard.Text.Utf8

/-!
# Verbs that can be addressed

Settings that pass the check leave no doubt about any verb: its label is
resolved to it, and nothing else is. Where two verbs share a label, one of them
cannot be reached by its own.

Whether the labels are distinct can be found out by sorting them. Equal labels
come to stand side by side, and one pass that keeps the first of each run loses
nothing exactly if there were none.
-/

namespace Switchboard

namespace Vocabulary

variable {vocabulary : Vocabulary} {text : String} {verb : Verb}

/-! ## Sorted labels -/

/-- The labels in the order of their bytes. -/
def sortedLabels (vocabulary : Vocabulary) : List String :=
  vocabulary.labels.mergeSort fun first second => (Text.byteOrder first second).isLE

/-- The sorted labels, of which the first of each run of equal ones is kept. -/
def runs (vocabulary : Vocabulary) : List String :=
  vocabulary.sortedLabels.destutter (· ≠ ·)

/-- No label is lost when the runs of equal ones are cut down, and none is
empty. -/
def keepsAllRuns (vocabulary : Vocabulary) : Bool :=
  vocabulary.runs.length = vocabulary.labels.length && vocabulary.runs.all (· ≠ "")

theorem perm_sortedLabels (vocabulary : Vocabulary) :
    vocabulary.sortedLabels.Perm vocabulary.labels :=
  List.mergeSort_perm _ _

theorem pairwise_sortedLabels (vocabulary : Vocabulary) :
    vocabulary.sortedLabels.Pairwise fun first second =>
      (Text.byteOrder first second).isLE = true := by
  apply List.pairwise_mergeSort
  · exact fun _ _ _ => Std.TransCmp.isLE_trans
  · intro first second
    rw [@Std.OrientedCmp.eq_swap _ Text.byteOrder _ second first]
    cases Text.byteOrder first second <;> rfl

/-- What comes back after something else is out of order, so a sorted list
repeats nothing when no neighbours are equal. -/
theorem nodup_of_isChain {texts : List String}
    (sorted : texts.Pairwise fun first second => (Text.byteOrder first second).isLE = true)
    (differ : texts.IsChain (· ≠ ·)) : texts.Nodup := by
  induction texts with
  | nil => exact List.nodup_nil
  | cons first rest ih =>
      rw [List.pairwise_cons] at sorted
      refine List.nodup_cons.mpr ⟨?_, ih sorted.2 differ.tail⟩
      intro again
      match rest with
      | second :: others =>
          have apart : first ≠ second := differ.rel
          have before := sorted.1 second List.mem_cons_self
          have later : first ∈ others := (List.mem_cons.mp again).resolve_left apart
          have behind := List.rel_of_pairwise_cons sorted.2 later
          exact apart (Std.LawfulEqCmp.eq_of_compare
            (Std.OrientedCmp.isLE_antisymm before behind))

/-- Cutting down the runs shortens the labels unless all of them differ. -/
theorem length_runs_eq_iff :
    vocabulary.runs.length = vocabulary.labels.length ↔ vocabulary.labels.Nodup := by
  rw [← vocabulary.perm_sortedLabels.length_eq, ← vocabulary.perm_sortedLabels.nodup_iff]
  constructor
  · intro kept
    have unmoved : vocabulary.runs = vocabulary.sortedLabels :=
      (List.destutter_sublist _ _).eq_of_length kept
    exact nodup_of_isChain vocabulary.pairwise_sortedLabels
      ((List.destutter_eq_self_iff _ _).mp unmoved)
  · intro distinct
    rw [runs, List.destutter_of_isChain _ _ (List.Pairwise.isChain distinct)]

/-- Sorting finds out the same as comparing every label with every other. -/
theorem keepsAllRuns_eq_isUsable (vocabulary : Vocabulary) :
    vocabulary.keepsAllRuns = vocabulary.isUsable := by
  rw [keepsAllRuns, isUsable]
  by_cases distinct : vocabulary.labels.Nodup
  · have kept := length_runs_eq_iff.mpr distinct
    have unmoved : vocabulary.runs = vocabulary.sortedLabels :=
      (List.destutter_sublist _ _).eq_of_length
        (kept.trans vocabulary.perm_sortedLabels.length_eq.symm)
    rw [decide_eq_true kept, decide_eq_true distinct, unmoved,
      vocabulary.perm_sortedLabels.all_eq]
  · rw [decide_eq_false (mt length_runs_eq_iff.mp distinct), decide_eq_false distinct]
    rfl

/-! ## Labels that are resolved -/

theorem isUsable_iff :
    vocabulary.isUsable = true ↔
      (∀ verb, vocabulary.label verb ≠ "") ∧ Function.Injective vocabulary.label := by
  constructor
  · intro usable
    refine ⟨fun verb => ?_, label_injective usable⟩
    rw [isUsable, Bool.and_eq_true, List.all_eq_true] at usable
    simpa using usable.2 _ (mem_labels_iff.mpr ⟨verb, rfl⟩)
  · rintro ⟨named, injective⟩
    rw [isUsable, Bool.and_eq_true, decide_eq_true_iff, List.all_eq_true]
    refine ⟨List.Nodup.map injective (by decide), fun text listed => ?_⟩
    obtain ⟨verb, rfl⟩ := mem_labels_iff.mp listed
    exact decide_eq_true (named verb)

/-- Every verb is reached by its own label, and by no other text. -/
structure IsAddressable (vocabulary : Vocabulary) : Prop where
  resolves : ∀ text verb, vocabulary.resolve? text = some verb ↔ vocabulary.label verb = text
  undone : ∀ verb, vocabulary.resolve? (vocabulary.label verb) = some verb
  /-- No text stands for two verbs. -/
  unambiguous : ∀ text first second, vocabulary.label first = text →
    vocabulary.label second = text → first = second
  nameless : vocabulary.resolve? "" = none

theorem isAddressable_of_isUsable (usable : vocabulary.isUsable = true) :
    vocabulary.IsAddressable where
  resolves text verb := by
    constructor
    · exact label_of_resolve?
    · rintro rfl
      exact resolve?_label usable verb
  undone := resolve?_label usable
  unambiguous text first second isFirst isSecond :=
    label_injective usable (isFirst.trans isSecond.symm)
  nameless := by
    rw [resolve?_eq_none_iff, mem_labels_iff]
    rintro ⟨verb, isEmpty⟩
    exact (isUsable_iff.mp usable).1 verb isEmpty

/-- Where two verbs share a label, whatever it is resolved to is not one of
them. -/
theorem exists_resolve?_ne (shared : ¬vocabulary.labels.Nodup) :
    ∃ verb other, other ≠ verb ∧ vocabulary.resolve? (vocabulary.label verb) = some other := by
  have notInjective : ¬Function.Injective vocabulary.label := fun injective =>
    shared (List.Nodup.map injective (by decide))
  simp only [Function.Injective, not_forall] at notInjective
  obtain ⟨first, second, same, differ⟩ := notInjective
  cases resolved : vocabulary.resolve? (vocabulary.label first) with
  | none =>
      rw [resolve?_eq_none_iff] at resolved
      exact absurd (mem_labels_iff.mpr ⟨first, rfl⟩) resolved
  | some found =>
      by_cases isFirst : found = first
      · refine ⟨second, first, differ, ?_⟩
        rw [← same, resolved, isFirst]
      · exact ⟨first, found, isFirst, resolved⟩

/-- The usual labels, except that an answer is called an offer. -/
def muddled : Vocabulary where
  label
    | .answer => "offer"
    | verb => standard.label verb

end Vocabulary

namespace Settings

/-- The check passes settings on unchanged exactly if every quantity is positive,
every path begins with a slash, and the labels are distinct and not empty, which
sorting them would find out as well. Then every verb is reached by its own label
and by nothing else. A repeated label, in whatever vocabulary, keeps some verb
from being reached by its own. -/
theorem validated_verbs_are_addressable (settings : Settings) :
    (settings.validate = .ok settings ↔
      (∀ quantity, 0 < settings.quantity quantity) ∧
        (∀ route, (settings.path route).toList.head? = some '/') ∧
        (∀ verb, settings.vocabulary.label verb ≠ "") ∧
        Function.Injective settings.vocabulary.label) ∧
    (∀ valid, settings.validate = .ok valid → valid = settings) ∧
    settings.vocabulary.keepsAllRuns = settings.vocabulary.isUsable ∧
    (settings.validate = .ok settings → settings.vocabulary.IsAddressable) ∧
    ∀ vocabulary : Vocabulary, ¬vocabulary.labels.Nodup →
      ∃ verb other, other ≠ verb ∧
        vocabulary.resolve? (vocabulary.label verb) = some other := by
  refine ⟨?_, ?_, settings.vocabulary.keepsAllRuns_eq_isUsable, ?_, ?_⟩
  · rw [validate_eq_ok_iff, Vocabulary.isUsable_iff]
    exact and_iff_right rfl
  · exact fun valid passed => (validate_eq_ok_iff.mp passed).1
  · intro passed
    exact Vocabulary.isAddressable_of_isUsable (validate_eq_ok_iff.mp passed).2.2.2
  · exact fun vocabulary => Vocabulary.exists_resolve?_ne

/-- The usual settings pass. If answers are called offers they do not, and some
verb is taken for another one. -/
theorem validated_verbs_are_addressable_muddled :
    let usual : Settings := {}
    let muddled : Settings := { vocabulary := .muddled }
    (usual.validate = .ok usual ∧ usual.vocabulary.IsAddressable) ∧
      muddled.validate ≠ .ok muddled ∧ muddled.vocabulary.keepsAllRuns = false ∧
      ¬muddled.vocabulary.labels.Nodup ∧
      ∃ verb other, other ≠ verb ∧
        muddled.vocabulary.resolve? (muddled.vocabulary.label verb) = some other := by
  intro usual muddled
  have accepted : usual.validate = .ok usual :=
    validate_eq_self (by decide) (by decide) (by decide)
  have shared : ¬muddled.vocabulary.labels.Nodup := by decide
  have unusable : muddled.vocabulary.isUsable = false := by decide
  obtain ⟨_, _, _, addressable, _⟩ := validated_verbs_are_addressable usual
  obtain ⟨passes, _, sorts, _, repeats⟩ := validated_verbs_are_addressable muddled
  refine ⟨⟨accepted, addressable accepted⟩, ?_, sorts.trans unusable, shared, repeats _ shared⟩
  intro passed
  obtain ⟨_, _, _, injective⟩ := passes.mp passed
  exact absurd (@injective .offer .answer rfl) (by decide)

end Settings

end Switchboard
