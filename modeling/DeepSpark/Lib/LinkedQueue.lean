import Mathlib

/-!
Doubly linked lists between two sentinels.

Owns the two pointer updates a linked queue is edited with, `join` and
`detach`, the relation between a pointer structure and the list of items it
represents, and the rules by which the updates cut and splice represented
lists. Names nothing of any particular queue.
-/

namespace DeepSpark.Lib

open Function

inductive Node (α : Type) where
  | head
  | tail
  | item (value : α)
deriving DecidableEq, Repr

structure Links (α : Type) where
  prev : Node α → Option (Node α)
  next : Node α → Option (Node α)

namespace Links

variable {α : Type} [DecidableEq α]

def empty : Links α where
  prev := fun _ => none
  next := fun _ => none

def join (links : Links α) (left right : Node α) : Links α where
  prev := Function.update links.prev right (some left)
  next := Function.update links.next left (some right)

def detach (links : Links α) (node : Node α) : Links α where
  prev := Function.update links.prev node none
  next := Function.update links.next node none

/-- Join a list of items behind `last`; returns the new last node. -/
def joinAll (links : Links α) (last : Node α) : List α → Links α × Node α
  | [] => (links, last)
  | value :: rest => joinAll (links.join last (.item value)) (.item value) rest

def detachAll (links : Links α) (values : List α) : Links α :=
  values.foldl (fun links value => links.detach (.item value)) links

omit [DecidableEq α] in
def Joined (links : Links α) (left right : Node α) : Prop :=
  links.next left = some right ∧ links.prev right = some left

/-! ## Frames and rules of the updates -/

theorem join_joined (links : Links α) (left right : Node α) :
    (links.join left right).Joined left right := by
  simp [Joined, join]

variable {left right : Node α}

theorem join_frame {links : Links α} {first second : Node α}
    (joined : links.Joined first second) (notLeft : first ≠ left) (notRight : second ≠ right) :
    (links.join left right).Joined first second := by
  obtain ⟨forward, backward⟩ := joined
  simp [Joined, join, update_of_ne notLeft, update_of_ne notRight, forward,
    backward]

variable {node : Node α}

theorem detach_frame {links : Links α} {first second : Node α}
    (joined : links.Joined first second) (notFirst : first ≠ node) (notSecond : second ≠ node) :
    (links.detach node).Joined first second := by
  obtain ⟨forward, backward⟩ := joined
  simp [Joined, detach, update_of_ne notFirst, update_of_ne notSecond, forward,
    backward]

theorem join_prev_of_ne {links : Links α} (different : node ≠ right) :
    (links.join left right).prev node = links.prev node :=
  update_of_ne different _ _

theorem join_next_of_ne {links : Links α} (different : node ≠ left) :
    (links.join left right).next node = links.next node :=
  update_of_ne different _ _

/-- Clearing a node commutes with joining two others. -/
theorem join_detach_comm {links : Links α} (notLeft : left ≠ node) (notRight : right ≠ node) :
    (links.join left right).detach node = (links.detach node).join left right := by
  simp [join, detach, update_comm notLeft, update_comm notRight]

theorem detach_chain {links : Links α} {path : List (Node α)}
    (chain : path.IsChain links.Joined) (outside : node ∉ path) :
    path.IsChain (links.detach node).Joined := by
  refine chain.imp_of_mem_imp ?_
  intro first second firstMember secondMember joined
  exact detach_frame joined (fun equal => outside (equal ▸ firstMember))
    (fun equal => outside (equal ▸ secondMember))

variable {values : List α}

theorem detachAll_chain {links : Links α} {path : List (Node α)}
    (chain : path.IsChain links.Joined) (outside : ∀ value ∈ values, Node.item value ∉ path) :
    path.IsChain (links.detachAll values).Joined := by
  induction values generalizing links with
  | nil => exact chain
  | cons value rest ih =>
    refine ih (detach_chain chain (outside value (by simp))) ?_
    exact fun other member => outside other (by simp [member])

theorem join_chain {links : Links α} {front back : List (Node α)}
    (frontChain : (front ++ [left]).IsChain links.Joined)
    (backChain : (right :: back).IsChain links.Joined)
    (nodup : (front ++ [left] ++ right :: back).Nodup) :
    (front ++ [left] ++ right :: back).IsChain (links.join left right).Joined := by
  have parts := List.nodup_append.mp nodup
  have leftNotFront : left ∉ front := by
    intro member
    exact (List.nodup_append.mp parts.1).2.2 left member left (by simp) rfl
  have rightNotBack : right ∉ back := (List.nodup_cons.mp parts.2.1).1
  have apart : ∀ first ∈ front ++ [left], ∀ second ∈ right :: back, first ≠ second := parts.2.2
  refine List.isChain_append.mpr ⟨?_, ?_, ?_⟩
  · rcases List.eq_nil_or_concat front with rfl | ⟨rest, last, rfl⟩
    · exact List.isChain_singleton _
    · have frontSplit := List.isChain_append.mp frontChain
      refine List.isChain_append.mpr ⟨?_, List.isChain_singleton _, ?_⟩
      · refine frontSplit.1.imp_of_mem_imp ?_
        intro first second firstMember secondMember joined
        refine join_frame joined (fun equal => leftNotFront (equal ▸ firstMember)) ?_
        exact apart second (List.mem_append_left _ secondMember) right (by simp)
      · intro first firstLast second secondHead
        refine join_frame (frontSplit.2.2 first firstLast second secondHead) ?_ ?_
        · exact fun equal => leftNotFront (equal ▸ List.mem_of_getLast? firstLast)
        · have isLeft : second = left := by simpa using secondHead.symm
          exact apart second (by simp [isLeft]) right (by simp)
  · refine backChain.imp_of_mem_tail_imp ?_
    intro first second firstMember secondMember joined
    refine join_frame joined (apart left (by simp) first firstMember).symm ?_
    exact fun equal => rightNotBack (equal ▸ secondMember)
  · intro first firstLast second secondHead
    have isLeft : first = left := by simpa using firstLast.symm
    have isRight : second = right := by simpa using secondHead.symm
    rw [isLeft, isRight]
    exact join_joined links left right

theorem join_chain_frame {links : Links α} {path : List (Node α)}
    (chain : path.IsChain links.Joined) (leftOutside : left ∉ path) (rightOutside : right ∉ path) :
    path.IsChain (links.join left right).Joined := by
  refine chain.imp_of_mem_imp ?_
  intro first second firstMember secondMember joined
  exact join_frame joined (fun equal => leftOutside (equal ▸ firstMember))
    (fun equal => rightOutside (equal ▸ secondMember))

/-- Joining items behind a chain extends it. -/
theorem joinAll_chain {links : Links α} {front : List (Node α)} {last : Node α}
    (chain : (front ++ [last]).IsChain links.Joined)
    (nodup : (front ++ [last] ++ values.map Node.item).Nodup) :
    (front ++ [last] ++ values.map Node.item).IsChain (links.joinAll last values).1.Joined := by
  induction values generalizing links front last with
  | nil => simpa [joinAll] using chain
  | cons value rest ih =>
    have regroup : front ++ [last] ++ (value :: rest).map Node.item =
        front ++ [last] ++ [Node.item value] ++ rest.map Node.item := by simp
    rw [regroup] at nodup ⊢
    refine ih ?_ nodup
    exact join_chain chain (List.isChain_singleton _) (List.nodup_append.mp nodup).1

theorem joinAll_chain_frame {links : Links α} {last : Node α}
    {path : List (Node α)} (chain : path.IsChain links.Joined) (lastOutside : last ∉ path)
    (valuesOutside : ∀ value ∈ values, Node.item value ∉ path) :
    path.IsChain (links.joinAll last values).1.Joined := by
  induction values generalizing links last with
  | nil => exact chain
  | cons value rest ih =>
    have valueOutside := valuesOutside value (by simp)
    refine ih (join_chain_frame chain lastOutside valueOutside) valueOutside ?_
    exact fun other member => valuesOutside other (by simp [member])

theorem joinAll_last (links : Links α) (last : Node α) (values : List α) :
    (links.joinAll last values).2 = (last :: values.map Node.item).getLast (by simp) := by
  induction values generalizing links last with
  | nil => rfl
  | cons value rest ih =>
    rw [joinAll, ih]
    simp

theorem joinAll_prev {links : Links α} {last : Node α}
    (outside : ∀ value ∈ values, node ≠ .item value) :
    (links.joinAll last values).1.prev node = links.prev node := by
  induction values generalizing links last with
  | nil => rfl
  | cons value rest ih =>
    rw [joinAll, ih (fun other member => outside other (by simp [member]))]
    simp [join, update_of_ne (outside value (by simp))]

theorem joinAll_next {links : Links α} {last : Node α}
    (notLast : node ≠ last) (outside : ∀ value ∈ values, node ≠ .item value) :
    (links.joinAll last values).1.next node = links.next node := by
  induction values generalizing links last with
  | nil => rfl
  | cons value rest ih =>
    rw [joinAll, ih (outside value (by simp))
      (fun other member => outside other (by simp [member]))]
    simp [join, update_of_ne notLast]

theorem detachAll_concat (links : Links α) (front : List α) (last : α) :
    links.detachAll (front ++ [last]) = (links.detachAll front).detach (.item last) := by
  simp [detachAll]

theorem detachAll_of_mem (links : Links α) {value : α} (member : value ∈ values) :
    (links.detachAll values).prev (.item value) = none ∧
      (links.detachAll values).next (.item value) = none := by
  induction values using List.reverseRecOn with
  | nil => simp at member
  | append_singleton front last ih =>
    rw [detachAll_concat]
    by_cases isLast : value = last
    · simp [detach, isLast]
    · have inFront : value ∈ front := by simpa [isLast] using member
      have different : Node.item value ≠ Node.item last := by simpa using isLast
      simpa [detach, update_of_ne different] using ih inFront

theorem detachAll_of_not_mem (links : Links α) (outside : ∀ value ∈ values, node ≠ .item value) :
    (links.detachAll values).prev node = links.prev node ∧
      (links.detachAll values).next node = links.next node := by
  induction values using List.reverseRecOn with
  | nil => exact ⟨rfl, rfl⟩
  | append_singleton front last ih =>
    rw [detachAll_concat]
    have different := outside last (by simp)
    have kept := ih fun value member => outside value (by simp [member])
    simpa [detach, update_of_ne different] using kept

/-! ## The list a pointer structure represents -/

omit [DecidableEq α] in
def path (items : List α) : List (Node α) :=
  .head :: (items.map Node.item ++ [.tail])

omit [DecidableEq α] in
/-- The pointers hold exactly the items of a list, in order; everything else is
detached. -/
structure Represents (links : Links α) (items : List α) : Prop where
  nodup : items.Nodup
  chain : (path items).IsChain links.Joined
  headPrev : links.prev .head = none
  tailNext : links.next .tail = none
  detached : ∀ value, value ∉ items →
    links.prev (.item value) = none ∧ links.next (.item value) = none

omit [DecidableEq α] in
theorem path_nodup {items : List α} (nodup : items.Nodup) : (path items).Nodup := by
  have itemsNodup : (items.map (fun value => Node.item value)).Nodup :=
    nodup.map fun _ _ equal => Node.item.inj equal
  simp [path, List.nodup_append, itemsNodup]

omit [DecidableEq α] in
theorem path_append (before rest : List α) : path (before ++ rest) =
    (.head :: before.map Node.item) ++ (rest.map Node.item ++ [.tail]) := by simp [path]

omit [DecidableEq α] in
theorem path_three (before middle rest : List α) : path (before ++ middle ++ rest) =
    (.head :: before.map Node.item) ++ middle.map Node.item ++ (rest.map Node.item ++ [.tail]) := by
  simp [path]

omit [DecidableEq α] in
private theorem nodup_without_middle {before middle rest : List α}
    (nodup : (before ++ middle ++ rest).Nodup) :
    (before ++ rest).Nodup ∧ ∀ value ∈ middle, value ∉ before ++ rest := by
  have shuffled : (middle ++ (before ++ rest)).Nodup := by
    refine (List.Perm.nodup_iff ?_).mp nodup
    rw [← List.append_assoc]
    exact List.perm_append_comm.append_right rest
  obtain ⟨-, outer, apart⟩ := List.nodup_append.mp shuffled
  exact ⟨outer, fun value member inOuter => apart value member value inOuter rfl⟩

section Represents

variable {links : Links α} {items : List α} (represents : links.Represents items)

include represents

omit [DecidableEq α] in
/-- The first node after the front sentinel. -/
theorem Represents.first :
    links.next .head = (items.map Node.item ++ [Node.tail]).head? := by
  have chain := represents.chain
  cases items with
  | nil => exact (List.isChain_pair.mp chain).1
  | cons value rest => exact (List.isChain_cons_cons.mp chain).1.1

omit [DecidableEq α] in
/-- The last node before the back sentinel. -/
theorem Represents.last :
    links.prev .tail = (Node.head :: items.map Node.item).getLast? := by
  have chain := represents.chain
  rw [path, ← List.cons_append] at chain
  have joined := (List.isChain_append.mp chain).2.2
  have nonempty : (Node.head :: items.map Node.item) ≠ [] := by simp
  rw [List.getLast?_eq_some_getLast nonempty]
  exact (joined _ (List.getLast_mem_getLast? nonempty) .tail (by simp)).2

omit [DecidableEq α] in
theorem Represents.inverse (left right : Node α) : links.next left = some right ↔ links.prev right = some left := by
  have chain := List.isChain_iff_getElem.mp represents.chain
  have onPath : ∀ node, node ∈ path items ∨ links.prev node = none ∧ links.next node = none := by
    intro node
    rcases node with _ | _ | value
    · exact .inl (by simp [path])
    · exact .inl (by simp [path])
    · by_cases isItem : value ∈ items
      · exact .inl (by simp [path, isItem])
      · exact .inr (represents.detached value isItem)
  constructor
  · intro isNext
    obtain ⟨i, below, rfl⟩ := List.getElem_of_mem ((onPath left).resolve_right fun none => by simp [none.2] at isNext)
    by_cases isLast : i + 1 < (path items).length
    · rw [(chain i isLast).1, Option.some_inj] at isNext
      rw [← isNext, (chain i isLast).2]
    · have isTail : (path items)[i] = .tail := by
        have atEnd : i = (path items).length - 1 := by omega
        subst atEnd
        simp [path]
      rw [isTail, represents.tailNext] at isNext
      cases isNext
  · intro isPrev
    obtain ⟨i, below, rfl⟩ := List.getElem_of_mem ((onPath right).resolve_right fun none => by simp [none.1] at isPrev)
    cases i with
    | zero =>
      rw [show (path items)[0] = .head from rfl, represents.headPrev] at isPrev
      cases isPrev
    | succ i =>
      rw [(chain i below).2, Option.some_inj] at isPrev
      rw [← isPrev, (chain i below).1]

omit [DecidableEq α] in
/-- The pointers of a listed item name its neighbours. -/
theorem Represents.neighbours {before after : List α} {value : α}
    (isItems : items = before ++ value :: after) :
    links.prev (.item value) = (Node.head :: before.map Node.item).getLast? ∧
      links.next (.item value) = (after.map Node.item ++ [Node.tail]).head? := by
  have chain := represents.chain
  have pathEq : path items = (Node.head :: before.map Node.item) ++
      (Node.item value :: (after.map Node.item ++ [Node.tail])) := by simp [path, isItems]
  rw [pathEq, List.isChain_append] at chain
  obtain ⟨-, backChain, joined⟩ := chain
  have leftNonempty : (Node.head :: before.map Node.item) ≠ [] := by simp
  have rightNonempty : after.map Node.item ++ [Node.tail] ≠ [] := by simp
  rw [List.getLast?_eq_some_getLast leftNonempty, List.head?_eq_some_head rightNonempty]
  exact ⟨(joined _ (List.getLast_mem_getLast? leftNonempty) _ (by simp)).2,
    ((List.isChain_cons.mp backChain).1 _ (List.head_mem_head? rightNonempty)).1⟩

/-- Detaching a segment and joining its neighbours leaves the other items. -/
theorem Represents.excise (before middle rest : List α) {next : Node α}
    (isItems : items = before ++ middle ++ rest)
    (isLeft : (Node.head :: before.map Node.item).getLast? = some left)
    (isNext : (rest.map Node.item ++ [Node.tail]).head? = some next) :
    ((links.detachAll middle).join left next).Represents (before ++ rest) := by
  obtain ⟨front, frontEq⟩ := List.getLast?_eq_some_iff.mp isLeft
  obtain ⟨after, afterEq⟩ := List.head?_eq_some_iff.mp isNext
  have nodup := represents.nodup
  have chain := represents.chain
  rw [isItems] at nodup chain
  obtain ⟨outerNodup, apart⟩ := nodup_without_middle nodup
  have frontChain : (front ++ [left]).IsChain (links.detachAll middle).Joined := by
    rw [← frontEq]
    refine detachAll_chain ?_ ?_
    · rw [path_three] at chain
      exact chain.left_of_append.left_of_append
    · intro value member inFront
      simp only [List.mem_cons, reduceCtorEq, List.mem_map, Node.item.injEq, exists_eq_right,
        false_or] at inFront
      exact apart value member (List.mem_append_left _ inFront)
  have restChain : (next :: after).IsChain (links.detachAll middle).Joined := by
    rw [← afterEq]
    refine detachAll_chain ?_ ?_
    · rw [path_three] at chain
      exact chain.right_of_append
    · intro value member inRest
      simp only [List.mem_append, List.mem_map, Node.item.injEq, exists_eq_right,
        List.mem_singleton, reduceCtorEq, or_false] at inRest
      exact apart value member (List.mem_append_right _ inRest)
  have leftMember : left ∈ Node.head :: before.map Node.item := by rw [frontEq]; simp
  have nextMember : next ∈ rest.map Node.item ++ [Node.tail] := by rw [afterEq]; simp
  refine ⟨outerNodup, ?_, ?_, ?_, ?_⟩
  · have outerPath := path_nodup outerNodup
    rw [path_append, frontEq, afterEq] at outerPath ⊢
    exact join_chain frontChain restChain outerPath
  · have notNext : Node.head ≠ next := by
      rintro rfl
      simp at nextMember
    rw [join_prev_of_ne notNext, (detachAll_of_not_mem links (by simp)).1]
    exact represents.headPrev
  · have notLeft : Node.tail ≠ left := by
      rintro rfl
      simp at leftMember
    rw [join_next_of_ne notLeft, (detachAll_of_not_mem links (by simp)).2]
    exact represents.tailNext
  · intro value outside
    have notNext : Node.item value ≠ next := by
      rintro rfl
      exact outside (List.mem_append_right _ (by simpa using nextMember))
    have notLeft : Node.item value ≠ left := by
      rintro rfl
      exact outside (List.mem_append_left _ (by simpa using leftMember))
    rw [join_prev_of_ne notNext, join_next_of_ne notLeft]
    by_cases inMiddle : value ∈ middle
    · exact detachAll_of_mem links inMiddle
    · have notMiddle : ∀ other ∈ middle, Node.item value ≠ Node.item other := by
        intro other member equal
        exact inMiddle (Node.item.inj equal ▸ member)
      rw [(detachAll_of_not_mem links notMiddle).1, (detachAll_of_not_mem links notMiddle).2]
      refine represents.detached value ?_
      rw [isItems]
      simp only [List.mem_append, not_or] at outside ⊢
      exact ⟨⟨outside.1, inMiddle⟩, outside.2⟩

/-- Joining fresh items between two neighbours inserts them. -/
theorem Represents.splice (before values rest : List α) {next : Node α}
    (isItems : items = before ++ rest)
    (isLeft : (Node.head :: before.map Node.item).getLast? = some left)
    (isNext : (rest.map Node.item ++ [Node.tail]).head? = some next)
    (fresh : (before ++ values ++ rest).Nodup) :
    ((links.joinAll left values).1.join (links.joinAll left values).2 next).Represents
      (before ++ values ++ rest) := by
  obtain ⟨front, frontEq⟩ := List.getLast?_eq_some_iff.mp isLeft
  obtain ⟨after, afterEq⟩ := List.head?_eq_some_iff.mp isNext
  have chain := represents.chain
  rw [isItems] at chain
  have wholeNodup := path_nodup fresh
  rw [path_three, frontEq, afterEq] at wholeNodup
  have leftMember : left ∈ Node.head :: before.map Node.item := by rw [frontEq]; simp
  have nextMember : next ∈ rest.map Node.item ++ [Node.tail] := by rw [afterEq]; simp
  have frontChain : (front ++ [left] ++ values.map Node.item).IsChain
      (links.joinAll left values).1.Joined := by
    rw [path_append, frontEq] at chain
    exact joinAll_chain chain.left_of_append (List.nodup_append.mp wholeNodup).1
  have restChain : (next :: after).IsChain (links.joinAll left values).1.Joined := by
    rw [path_append, afterEq] at chain
    refine joinAll_chain_frame chain.right_of_append ?_ ?_
    · intro inRest
      have leftEarly : left ∈ front ++ [left] ++ values.map Node.item := by simp
      exact (List.nodup_append.mp wholeNodup).2.2 left leftEarly left inRest rfl
    · intro value member inRest
      have valueEarly : Node.item value ∈ front ++ [left] ++ values.map Node.item := by simp [member]
      exact (List.nodup_append.mp wholeNodup).2.2 _ valueEarly _ inRest rfl
  have isLast := joinAll_last links left values
  obtain ⟨upTo, upToEq⟩ : ∃ upTo, front ++ [left] ++ values.map Node.item =
      upTo ++ [(links.joinAll left values).2] := by
    refine ⟨(front ++ [left] ++ values.map Node.item).dropLast, ?_⟩
    rw [isLast]
    have nonempty : front ++ [left] ++ values.map Node.item ≠ [] := by simp
    have regroup := (List.dropLast_concat_getLast nonempty).symm
    simpa using regroup
  have lastMember : (links.joinAll left values).2 ∈
      (Node.head :: before.map Node.item) ++ values.map Node.item := by
    rw [frontEq, upToEq]
    simp
  refine ⟨fresh, ?_, ?_, ?_, ?_⟩
  · rw [path_three, frontEq, afterEq]
    rw [upToEq] at frontChain wholeNodup ⊢
    exact join_chain frontChain restChain wholeNodup
  · have notNext : Node.head ≠ next := by
      rintro rfl
      simp at nextMember
    rw [join_prev_of_ne notNext, joinAll_prev (by simp)]
    exact represents.headPrev
  · have notLeft : Node.tail ≠ left := by
      rintro rfl
      simp at leftMember
    have notLast : Node.tail ≠ (links.joinAll left values).2 := by
      intro equal
      rw [← equal] at lastMember
      simp at lastMember
    rw [join_next_of_ne notLast, joinAll_next notLeft (by simp)]
    exact represents.tailNext
  · intro value outside
    simp only [List.mem_append, not_or] at outside
    have notNext : Node.item value ≠ next := by
      rintro rfl
      exact outside.2 (by simpa using nextMember)
    have notLeft : Node.item value ≠ left := by
      rintro rfl
      exact outside.1.1 (by simpa using leftMember)
    have notLast : Node.item value ≠ (links.joinAll left values).2 := by
      intro equal
      rw [← equal] at lastMember
      simp only [List.cons_append, List.mem_cons, reduceCtorEq, List.mem_append, List.mem_map,
        Node.item.injEq, exists_eq_right, false_or] at lastMember
      exact lastMember.elim outside.1.1 outside.1.2
    have notValues : ∀ other ∈ values, Node.item value ≠ Node.item other := by
      intro other member equal
      exact outside.1.2 (Node.item.inj equal ▸ member)
    rw [join_prev_of_ne notNext, join_next_of_ne notLast, joinAll_prev notValues,
      joinAll_next notLeft notValues]
    refine represents.detached value ?_
    rw [isItems]
    simp only [List.mem_append, not_or]
    exact ⟨outside.1.1, outside.2⟩

end Represents

end Links

end DeepSpark.Lib
