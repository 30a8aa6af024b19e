import Mathlib

/-!
KV cache specs: the kinds of KV cache a group of layers can have.

Owns the fields of `v1/kv_cache_interface.py` that block management reads, and
`get_num_skipped_tokens` of the managers, which depends on the kind alone.
-/

namespace DeepSpark

inductive MambaCacheMode where
  | none
  | all
  | align
deriving DecidableEq, Repr

/-- The kind of a spec with the parameters of that kind. MLA and sink variants
are full attention for every function modelled here. -/
inductive SpecKind where
  | fullAttention
  | slidingWindow (slidingWindow : Nat)
  | chunkedLocal (attentionChunkSize : Nat)
  | mamba (mambaCacheMode : MambaCacheMode) (numSpeculativeBlocks : Nat)
deriving DecidableEq, Repr

/-- `KVCacheSpec`. `layout` stands for the fields that only the comparison of
two specs reads: head counts, data types, page padding. -/
structure KVCacheSpec where
  kind : SpecKind
  blockSize : Nat
  dcpReplicated : Bool := false
  layout : Nat := 0
deriving DecidableEq, Repr

/-- `isinstance(spec, FullAttentionSpec)`. -/
def KVCacheSpec.isFullAttention (spec : KVCacheSpec) : Bool :=
  match spec.kind with
  | .fullAttention => true
  | _ => false

/-- `isinstance(spec, MambaSpec)`. -/
def KVCacheSpec.isMamba (spec : KVCacheSpec) : Bool :=
  match spec.kind with
  | .mamba _ _ => true
  | _ => false

/-- `get_num_skipped_tokens`: the tokens that attention at the next position no
longer reads. -/
def SpecKind.getNumSkippedTokens (kind : SpecKind) (numComputedTokens : Int) : Int :=
  match kind with
  | .fullAttention => 0
  | .slidingWindow window => max 0 (numComputedTokens - window + 1)
  | .chunkedLocal chunk => numComputedTokens / chunk * chunk
  | .mamba _ _ => numComputedTokens - 1

end DeepSpark
