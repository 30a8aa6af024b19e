import DeepSpark.Lib.Heapq
import DeepSpark.Lib.PyError
import DeepSpark.Request.Data

/-!
Request queues of `v1/core/sched/request_queue.py`.

Owns the first-come-first-served and the priority queue with their operations,
and what each operation does to the requests a queue holds, counted with
multiplicity. A queue holds request ids; the comparison of a priority queue reads
the requests behind them.
-/

namespace DeepSpark

open Lib

inductive SchedulingPolicy where
  | fcfs
  | priority
deriving DecidableEq, Repr

/-- `Request.__lt__`, which compares priority, arrival time and id. -/
def Request.lt (left right : Request) : Bool :=
  if left.priority ≠ right.priority then left.priority < right.priority
  else if left.arrivalTime ≠ right.arrivalTime then left.arrivalTime < right.arrivalTime
  else left.requestId < right.requestId

variable {queue rest : List ReqId}

namespace RequestQueue

variable (policy : SchedulingPolicy) (lt : ReqId → ReqId → Bool)

def addRequest (queue : List ReqId) (request : ReqId) : List ReqId :=
  match policy with
  | .fcfs => queue ++ [request]
  | .priority => Heapq.heappush lt queue request

def peekRequest (queue : List ReqId) : Except PyError ReqId :=
  match queue with
  | [] => .error (.indexError "peek from an empty queue")
  | request :: _ => .ok request

def popRequest (queue : List ReqId) : Except PyError (ReqId × List ReqId) :=
  match policy with
  | .fcfs =>
    match queue with
    | [] => .error (.indexError "pop from an empty deque")
    | request :: rest => .ok (request, rest)
  | .priority =>
    match Heapq.heappop lt queue with
    | none => .error (.indexError "pop from empty heap")
    | some (request, rest) => .ok (request, rest)

/-- `prepend_request`; a priority queue has no front. -/
def prependRequest (queue : List ReqId) (request : ReqId) : List ReqId :=
  match policy with
  | .fcfs => request :: queue
  | .priority => addRequest policy lt queue request

def popAll : Nat → List ReqId → List ReqId
  | 0, _ => []
  | fuel + 1, queue =>
    match Heapq.heappop lt queue with
    | none => []
    | some (request, rest) => request :: popAll fuel rest

/-- `prepend_requests`: `extendleft` reverses the order. -/
def prependRequests (queue requests : List ReqId) : List ReqId :=
  match policy with
  | .fcfs => requests.reverse ++ queue
  | .priority => (popAll lt requests.length requests).foldl (addRequest policy lt) queue

def removeRequests (queue requests : List ReqId) : List ReqId :=
  let filtered := queue.filter fun request => request ∉ requests
  match policy with
  | .fcfs => filtered
  | .priority => Heapq.heapify lt filtered

/-! ## What a queue holds -/

theorem addRequest_perm (queue : List ReqId) (request : ReqId) :
    (addRequest policy lt queue request).Perm (request :: queue) := by
  cases policy with
  | fcfs => exact List.perm_append_singleton request queue
  | priority => exact Heapq.heappush_perm lt queue request

theorem prependRequest_perm (queue : List ReqId) (request : ReqId) :
    (prependRequest policy lt queue request).Perm (request :: queue) := by
  cases policy with
  | fcfs => exact List.Perm.refl _
  | priority => exact Heapq.heappush_perm lt queue request

theorem popRequest_perm {request : ReqId}
    (popped : popRequest policy lt queue = .ok (request, rest)) : queue.Perm (request :: rest) := by
  cases policy with
  | fcfs =>
    cases queue with
    | nil => cases popped
    | cons first others =>
      cases popped
      exact List.Perm.refl _
  | priority =>
    unfold popRequest at popped
    dsimp only at popped
    split at popped
    next => cases popped
    next read =>
      cases popped
      exact Heapq.heappop_perm lt read

theorem heappop_head {request : ReqId}
    (popped : Heapq.heappop lt queue = some (request, rest)) : queue.head? = some request := by
  rcases List.eq_nil_or_concat queue with rfl | ⟨front, last, rfl⟩
  · cases popped
  · rw [List.concat_eq_append] at popped ⊢
    unfold Heapq.heappop at popped
    rw [List.getLast?_concat, List.dropLast_concat] at popped
    cases front with
    | nil =>
      cases popped
      rfl
    | cons first middle =>
      cases popped
      rfl

theorem peekRequest_mem {peeked : ReqId}
    (peek : peekRequest queue = .ok peeked) : peeked ∈ queue := by
  cases queue with
  | nil => cases peek
  | cons first rest =>
    cases peek
    exact List.mem_cons_self

theorem popRequest_eq_peek {peeked popped : ReqId} (peek : peekRequest queue = .ok peeked)
    (pop : popRequest policy lt queue = .ok (popped, rest)) : popped = peeked := by
  cases queue with
  | nil => cases peek
  | cons first others =>
    cases peek
    cases policy with
    | fcfs =>
      cases pop
      rfl
    | priority =>
      unfold popRequest at pop
      dsimp only at pop
      split at pop
      next => cases pop
      next read =>
        cases pop
        exact (Option.some.inj (heappop_head lt read)).symm

private theorem popAll_perm (fuel : Nat) (queue : List ReqId) (enough : queue.length ≤ fuel) :
    (popAll lt fuel queue).Perm queue := by
  induction fuel generalizing queue with
  | zero =>
    have isEmpty : queue = [] := List.length_eq_zero_iff.mp (Nat.le_zero.mp enough)
    rw [isEmpty]
    exact List.Perm.refl []
  | succ fuel ih =>
    rw [popAll]
    split
    next isNone =>
      rw [(Heapq.heappop_eq_none lt).mp isNone]
    next request rest read =>
      have perm := Heapq.heappop_perm lt read
      have shorter : rest.length ≤ fuel := by
        have lengths := perm.length_eq
        rw [List.length_cons] at lengths
        omega
      exact ((ih rest shorter).cons request).trans perm.symm

private theorem addAll_perm (requests queue : List ReqId) :
    (requests.foldl (addRequest policy lt) queue).Perm (requests ++ queue) := by
  induction requests generalizing queue with
  | nil => exact List.Perm.refl queue
  | cons request rest ih =>
    have added := (addRequest_perm policy lt queue request).append_left rest
    exact ((ih _).trans added).trans List.perm_middle

theorem prependRequests_perm (queue requests : List ReqId) :
    (prependRequests policy lt queue requests).Perm (requests ++ queue) := by
  cases policy with
  | fcfs => exact (List.reverse_perm requests).append_right queue
  | priority =>
    have popped := popAll_perm lt requests.length requests le_rfl
    exact (addAll_perm .priority lt _ queue).trans (popped.append_right queue)

theorem removeRequests_perm (queue requests : List ReqId) :
    (removeRequests policy lt queue requests).Perm
      (queue.filter fun request => request ∉ requests) := by
  cases policy with
  | fcfs => exact List.Perm.refl _
  | priority => exact Heapq.heapify_perm lt _

end RequestQueue

end DeepSpark
