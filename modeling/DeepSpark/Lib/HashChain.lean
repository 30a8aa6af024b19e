import Mathlib

/-!
Hash chains over an arbitrary digest type.

A chain folds a list of blocks into one digest, each step hashing the previous
digest with the next block. `calls` lists the argument pairs the fold really
hashes. `digest_injective` is the transfer principle: a step function that is
injective on the pairs two chains hash, and never returns the seed there, makes
equal digests mean equal block lists, so also equal lengths.

Nothing here fixes a digest format; a caller supplies the step and its facts.
-/

namespace DeepSpark.Lib.HashChain

variable {Digest Block : Type}

/-- The digest of a block list, started from `seed`. -/
def digest (step : Digest → Block → Digest) (seed : Digest) (blocks : List Block) : Digest :=
  blocks.foldl step seed

/-- The digests of all nonempty prefixes, in order. -/
def digests (step : Digest → Block → Digest) : Digest → List Block → List Digest
  | _, [] => []
  | seed, block :: rest => step seed block :: digests step (step seed block) rest

def calls (step : Digest → Block → Digest) : Digest → List Block → List (Digest × Block)
  | _, [] => []
  | seed, block :: rest => (seed, block) :: calls step (step seed block) rest

variable {step : Digest → Block → Digest} {seed : Digest}

@[simp] theorem digests_length (seed : Digest) (blocks : List Block) :
    (digests step seed blocks).length = blocks.length := by
  induction blocks generalizing seed with
  | nil => rfl
  | cons block rest ih => simp [digests, ih]

theorem digests_append (seed : Digest) (left right : List Block) :
    digests step seed (left ++ right) =
      digests step seed left ++ digests step (digest step seed left) right := by
  induction left generalizing seed with
  | nil => rfl
  | cons block rest ih =>
    simp [digests, digest, ih]

theorem digests_take (seed : Digest) (blocks : List Block) (count : Nat) :
    (digests step seed blocks).take count = digests step seed (blocks.take count) := by
  induction blocks generalizing seed count with
  | nil => simp [digests]
  | cons block rest ih =>
    cases count with
    | zero => rfl
    | succ count => simp [digests, ih]

theorem digests_map {Source : Type} (toBlock : Source → Block) (seed : Digest) (blocks : List Source) :
    digests step seed (blocks.map toBlock) =
      digests (fun parent source => step parent (toBlock source)) seed blocks := by
  induction blocks generalizing seed with
  | nil => rfl
  | cons block rest ih => simp [digests, ih]

theorem calls_append (seed : Digest) (left right : List Block) :
    calls step seed (left ++ right) =
      calls step seed left ++ calls step (digest step seed left) right := by
  induction left generalizing seed with
  | nil => rfl
  | cons block rest ih =>
    simp [calls, digest, ih]

theorem digests_getElem (blocks : List Block) (index : Nat) (below : index < blocks.length) :
    (digests step seed blocks).get ⟨index, by simpa using below⟩ =
      digest step seed (blocks.take (index + 1)) := by
  induction blocks generalizing seed index with
  | nil => simp at below
  | cons block rest ih =>
    cases index with
    | zero => simp [digests, digest]
    | succ index =>
      have tailBelow : index < rest.length := by simpa using below
      simpa [digests, digest] using @ih (step seed block) index tailBelow

theorem digests_getLast? (blocks : List Block) (nonempty : blocks ≠ []) :
    (digests step seed blocks).getLast? = some (digest step seed blocks) := by
  obtain ⟨front, last, rfl⟩ : ∃ front last, blocks = front ++ [last] :=
    ⟨blocks.dropLast, blocks.getLast nonempty, (List.dropLast_concat_getLast nonempty).symm⟩
  rw [digests_append]
  simp [digests, digest]

/-- A chain digest is hashed from a recorded call, so a property every call's
result has holds of the digest of every nonempty chain. -/
theorem digest_of_calls {P : Digest → Prop} {blocks : List Block} (nonempty : blocks ≠ [])
    (holds : ∀ call ∈ calls step seed blocks, P (step call.1 call.2)) :
    P (digest step seed blocks) := by
  obtain ⟨front, last, rfl⟩ : ∃ front last, blocks = front ++ [last] :=
    ⟨blocks.dropLast, blocks.getLast nonempty, (List.dropLast_concat_getLast nonempty).symm⟩
  have called := holds (digest step seed front, last) (by simp [calls_append, calls])
  simpa [digest] using called

/-- Every intermediate digest is the result of a recorded call. -/
theorem digests_of_calls {blocks : List Block} {value : Digest}
    (member : value ∈ digests step seed blocks) :
    ∃ call ∈ calls step seed blocks, value = step call.1 call.2 := by
  induction blocks generalizing seed with
  | nil => simp [digests] at member
  | cons block rest ih =>
    simp only [digests, List.mem_cons] at member
    rcases member with rfl | inTail
    · exact ⟨(seed, block), by simp [calls], rfl⟩
    · obtain ⟨call, callMember, result⟩ := ih inTail
      exact ⟨call, by simp [calls, callMember], result⟩

/-- The digest argument of a call is the seed or the result of another call. -/
theorem calls_parent {blocks : List Block} {call : Digest × Block}
    (member : call ∈ calls step seed blocks) :
    call.1 = seed ∨ ∃ earlier ∈ calls step seed blocks, call.1 = step earlier.1 earlier.2 := by
  induction blocks generalizing seed with
  | nil => simp [calls] at member
  | cons block rest ih =>
    simp only [calls, List.mem_cons] at member
    rcases member with rfl | inTail
    · exact Or.inl rfl
    · right
      rcases ih inTail with isHead | ⟨earlier, earlierMember, parent⟩
      · exact ⟨(seed, block), by simp [calls], isHead⟩
      · exact ⟨earlier, by simp [calls, earlierMember], parent⟩

theorem calls_take_subset (blocks : List Block) (count : Nat) :
    ∀ call ∈ calls step seed (blocks.take count), call ∈ calls step seed blocks := by
  intro call member
  rw [← List.take_append_drop count blocks, calls_append]
  exact List.mem_append_left _ member

/-- Equal digests mean equal chains, for a step that is injective on the pairs
the two chains hash and never returns the seed there. -/
theorem digest_injective {left right : List Block}
    (injective : Set.InjOn (fun call : Digest × Block => step call.1 call.2)
      {call | call ∈ calls step seed left ∨ call ∈ calls step seed right})
    (leftFresh : ∀ call ∈ calls step seed left, step call.1 call.2 ≠ seed)
    (rightFresh : ∀ call ∈ calls step seed right, step call.1 call.2 ≠ seed)
    (equal : digest step seed left = digest step seed right) : left = right := by
  induction left using List.reverseRecOn generalizing right with
  | nil =>
    by_contra different
    have nonempty : right ≠ [] := fun empty => different empty.symm
    exact digest_of_calls (P := fun value => value ≠ seed) nonempty rightFresh equal.symm
  | append_singleton left block ih =>
    induction right using List.reverseRecOn with
    | nil =>
      exact absurd equal
        (digest_of_calls (P := fun value => value ≠ seed) (by simp) leftFresh)
    | append_singleton right other _ =>
      simp only [calls_append, calls, List.mem_append, List.mem_singleton]
        at injective leftFresh rightFresh
      have sameCall : (digest step seed left, block) = (digest step seed right, other) := by
        apply injective (Or.inl (Or.inr rfl)) (Or.inr (Or.inr rfl))
        simpa [digest] using equal
      have sameDigest := congrArg Prod.fst sameCall
      have sameBlock : block = other := congrArg Prod.snd sameCall
      have samePrefix : left = right := by
        apply ih
        · exact injective.mono fun call member => member.imp Or.inl Or.inl
        · exact fun call member => leftFresh call (Or.inl member)
        · exact fun call member => rightFresh call (Or.inl member)
        · exact sameDigest
      rw [samePrefix, sameBlock]

/-- Equal lists of digests mean equal chains already if the step tells blocks
apart behind one and the same digest. -/
theorem digests_injective {left right : List Block}
    (injective : ∀ parent block other, (parent, block) ∈ calls step seed left →
      (parent, other) ∈ calls step seed right → step parent block = step parent other →
      block = other)
    (equal : digests step seed left = digests step seed right) : left = right := by
  induction left generalizing seed right with
  | nil =>
    cases right with
    | nil => rfl
    | cons => cases equal
  | cons block left ih =>
    cases right with
    | nil => cases equal
    | cons other right =>
      rw [digests, digests] at equal
      injection equal with sameHead sameTail
      have sameBlock :=
        injective seed block other List.mem_cons_self List.mem_cons_self sameHead
      subst sameBlock
      rw [ih (fun parent block other inLeft inRight =>
        injective parent block other (List.mem_cons_of_mem _ inLeft)
          (List.mem_cons_of_mem _ inRight)) sameTail]

end DeepSpark.Lib.HashChain
