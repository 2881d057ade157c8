/-!
# Queues

A queue is a list to whose end elements are added and from whose beginning they
are taken, both without walking through it. It is kept in two halves, and its
size beside them. How the elements are spread over the halves cannot be seen:
queues with the same elements in the same order are equal.
-/

namespace Switchboard

universe u

/-- The halves in which a queue is kept. -/
structure Halves (α : Type u) where
  front : List α
  /-- The elements behind the front, the last first. -/
  back : List α
  size : Nat
  size_eq : size = front.length + back.length

namespace Halves

variable {α : Type u}

/-- The elements in order. -/
def toList (halves : Halves α) : List α :=
  halves.front ++ halves.back.reverse

/-- The halves of a list, which is all front. -/
def ofList (elements : List α) : Halves α where
  front := elements
  back := []
  size := elements.length
  size_eq := rfl

/-- Add an element to the end. -/
def push (halves : Halves α) (element : α) : Halves α where
  front := halves.front
  back := element :: halves.back
  size := halves.size + 1
  size_eq := by
    rw [halves.size_eq, List.length_cons]
    omega

/-- Take the first element. When the front is used up the back takes its
place. -/
def pop? (halves : Halves α) : Option (α × Halves α) :=
  match halves with
  | { front := element :: rest, back, size, size_eq } =>
      some (element,
        { front := rest, back, size := size - 1
          size_eq := by
            rw [size_eq, List.length_cons]
            omega })
  | { front := [], back, .. } =>
      match back.reverse with
      | element :: rest => some (element, ofList rest)
      | [] => none

@[simp]
theorem toList_ofList (elements : List α) : (ofList elements).toList = elements := by
  simp [ofList, toList]

@[simp]
theorem toList_push (halves : Halves α) (element : α) :
    (halves.push element).toList = halves.toList ++ [element] := by
  simp [push, toList]

theorem size_eq_length_toList (halves : Halves α) : halves.size = halves.toList.length := by
  simp [halves.size_eq, toList]

/-- Taking the first element of the halves takes the first of the list. -/
theorem map_pop? (halves : Halves α) :
    (halves.pop?).map (fun popped => (popped.1, popped.2.toList)) =
      match halves.toList with
      | [] => none
      | element :: rest => some (element, rest) := by
  match halves with
  | { front := element :: rest, .. } => simp [pop?, toList]
  | { front := [], back, .. } =>
      cases reversed : back.reverse with
      | nil => simp [pop?, toList, reversed]
      | cons element rest => simp [pop?, toList, reversed, ofList]

/-- Halves that hold the same elements in the same order are not told apart. -/
instance setoid (α : Type u) : Setoid (Halves α) where
  r first second := first.toList = second.toList
  iseqv := ⟨fun _ => rfl, Eq.symm, Eq.trans⟩

end Halves

/-- A queue of elements. -/
def Queue (α : Type u) : Type u :=
  Quotient (Halves.setoid α)

namespace Queue

variable {α : Type u}

/-- The queue that is kept in some halves. -/
def ofHalves (halves : Halves α) : Queue α :=
  Quotient.mk _ halves

/-- The elements in order, the next one first. -/
def toList (queue : Queue α) : List α :=
  Quotient.lift Halves.toList (fun _ _ same => same) queue

@[simp]
theorem toList_ofHalves (halves : Halves α) : (ofHalves halves).toList = halves.toList :=
  rfl

/-- Two queues with the same elements in the same order are equal. -/
@[ext]
theorem ext {first second : Queue α} (same : first.toList = second.toList) : first = second := by
  induction first using Quotient.inductionOn
  induction second using Quotient.inductionOn
  exact Quotient.sound same

/-- Every queue is kept in some halves. -/
theorem exists_ofHalves (queue : Queue α) : ∃ halves, queue = ofHalves halves := by
  induction queue using Quotient.inductionOn with
  | h halves => exact ⟨halves, rfl⟩

/-- The queue of a list. -/
def ofList (elements : List α) : Queue α :=
  ofHalves (.ofList elements)

@[simp]
theorem toList_ofList (elements : List α) : (ofList elements).toList = elements :=
  Halves.toList_ofList elements

/-- The queue without elements. -/
def empty : Queue α :=
  ofList []

instance : Inhabited (Queue α) :=
  ⟨empty⟩

@[simp]
theorem toList_empty : (empty : Queue α).toList = [] :=
  rfl

/-- The number of elements. -/
def size (queue : Queue α) : Nat :=
  Quotient.lift Halves.size
    (fun first second (same : first.toList = second.toList) => by
      rw [first.size_eq_length_toList, second.size_eq_length_toList, same]) queue

@[simp]
theorem size_eq_length (queue : Queue α) : queue.size = queue.toList.length := by
  obtain ⟨halves, rfl⟩ := queue.exists_ofHalves
  exact halves.size_eq_length_toList

/-- Add an element to the end. -/
def push (queue : Queue α) (element : α) : Queue α :=
  Quotient.lift (fun halves : Halves α => ofHalves (halves.push element))
    (fun first second (same : first.toList = second.toList) => ext (by simp [same])) queue

@[simp]
theorem toList_push (queue : Queue α) (element : α) :
    (queue.push element).toList = queue.toList ++ [element] := by
  obtain ⟨halves, rfl⟩ := queue.exists_ofHalves
  exact halves.toList_push element

/-- Add the elements of a list to the end, one after the other. -/
def pushAll (queue : Queue α) (elements : List α) : Queue α :=
  elements.foldl push queue

@[simp]
theorem toList_pushAll (queue : Queue α) (elements : List α) :
    (queue.pushAll elements).toList = queue.toList ++ elements := by
  unfold pushAll
  induction elements generalizing queue with
  | nil => simp
  | cons element rest ih => simp [ih]

/-- Halves with the same elements lead to the same first element and rest. -/
theorem map_pop? (halves : Halves α) :
    (halves.pop?).map (fun popped => (popped.1, ofHalves popped.2)) =
      match halves.toList with
      | [] => none
      | element :: rest => some (element, ofList rest) := by
  have popped := halves.map_pop?
  cases elements : halves.toList <;> cases taken : halves.pop? <;> simp_all [Queue.ext_iff]

/-- Take the first element. -/
def pop? (queue : Queue α) : Option (α × Queue α) :=
  Quotient.lift
    (fun halves : Halves α => halves.pop?.map fun popped => (popped.1, ofHalves popped.2))
    (fun first second (same : first.toList = second.toList) => by
      rw [map_pop? first, map_pop? second, same]) queue

/-- Taking the first element of a queue takes the first of its list. -/
theorem pop?_eq (queue : Queue α) :
    queue.pop? =
      match queue.toList with
      | [] => none
      | element :: rest => some (element, ofList rest) := by
  obtain ⟨halves, rfl⟩ := queue.exists_ofHalves
  exact map_pop? halves

@[simp]
theorem pop?_eq_none_iff {queue : Queue α} : queue.pop? = none ↔ queue.toList = [] := by
  rw [pop?_eq]
  cases queue.toList <;> simp

theorem pop?_eq_some_iff {queue rest : Queue α} {element : α} :
    queue.pop? = some (element, rest) ↔ queue.toList = element :: rest.toList := by
  rw [pop?_eq]
  cases queue.toList <;> simp [Queue.ext_iff]

instance [DecidableEq α] : DecidableEq (Queue α) := fun first second =>
  decidable_of_iff (first.toList = second.toList) Queue.ext_iff.symm

instance [Repr α] : Repr (Queue α) :=
  ⟨fun queue precedence => reprPrec queue.toList precedence⟩

end Queue

end Switchboard
