import Switchboard.Proofs.Lookup
import Switchboard.Vocabulary

/-!
# Vocabularies that say the same

In a usable vocabulary every label is resolved to the verb that carries it. So
two usable vocabularies say the same in different words: a label of the one
stands for the same verb as its counterpart in the other, and a text that is a
label of neither is understood by neither.
-/

namespace Switchboard.Vocabulary

variable {vocabulary other : Vocabulary} {text : String} {verb : Verb}

theorem mem_labels_iff : text ∈ vocabulary.labels ↔ ∃ verb, vocabulary.label verb = text := by
  rw [labels, List.mem_map]
  constructor
  · rintro ⟨verb, _, same⟩
    exact ⟨verb, same⟩
  · rintro ⟨verb, same⟩
    exact ⟨verb, verb.mem_all, same⟩

theorem label_injective (usable : vocabulary.isUsable = true) :
    Function.Injective vocabulary.label := by
  rw [isUsable, Bool.and_eq_true, decide_eq_true_iff] at usable
  intro first second same
  exact List.inj_on_of_nodup_map usable.1 first.mem_all second.mem_all same

theorem resolve?_eq_none_iff : vocabulary.resolve? text = none ↔ text ∉ vocabulary.labels := by
  rw [resolve?, List.find?_eq_none, mem_labels_iff]
  constructor
  · rintro unknown ⟨verb, same⟩
    exact unknown verb verb.mem_all (decide_eq_true same)
  · intro unknown verb _ same
    exact unknown ⟨verb, of_decide_eq_true same⟩

theorem label_of_resolve? (resolved : vocabulary.resolve? text = some verb) :
    vocabulary.label verb = text := by
  simpa using List.find?_some resolved

theorem resolve?_label (usable : vocabulary.isUsable = true) (verb : Verb) :
    vocabulary.resolve? (vocabulary.label verb) = some verb :=
  find?_eq_some_of_mem (label_injective usable) verb.mem_all

/-! ## Counterparts -/

/-- What a text of one vocabulary is in another one: a label becomes the label
of the same verb, and a text that is no label of either stays. -/
inductive Renames (vocabulary other : Vocabulary) : String → String → Prop
  | label (verb : Verb) : Renames vocabulary other (vocabulary.label verb) (other.label verb)
  | foreign {text : String} (unknown : text ∉ vocabulary.labels)
      (unknownThere : text ∉ other.labels) : Renames vocabulary other text text

end Switchboard.Vocabulary
