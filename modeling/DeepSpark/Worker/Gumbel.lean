import DeepSpark.Lib.Argmax

/-!
The sampling kernels of `v1/worker/gpu/sample/gumbel.py`.

Owns `gumbel_block_argmax`, the kernel of `gumbel_sample` with the store of the
temperature-applied logits, and the choice of the sampled token. Values are those of
any linear order with a least element for minus infinity; the arithmetic of the
device and its random numbers are parameters.
-/

namespace DeepSpark

open Lib

/-- The values a device computes with: an order with minus infinity, and arithmetic. -/
class DeviceFloat (α : Type) extends LinearOrder α, OrderBot α, Zero α, One α, Add α, Sub α, Mul α,
  Div α

/-- The functions of the device besides its arithmetic: `tl.exp`, `tl.log`, the
uniform draw `tl_rand64`, and the Gumbel noise of a lane from a seed and a position. -/
structure DeviceFns (α : Type) where
  exp : α → α
  log : α → α
  rand64 : Int → Int → α
  gumbelNoise : Int → Int → Nat → α

/-- Where `gumbel_block_argmax` stores the processed logits: the row stride of the
tensor, the column of a token, and the number of active rows if it is limited. -/
structure ProcessedLogits where
  stride : Nat
  col : Nat → Nat
  activeRows : Option Nat
deriving Inhabited

/-- The pointers `gumbel_block_argmax` reads. -/
structure GumbelArgs (α : Type) where
  expandedIdxMapping : Nat → Nat
  temperature : Nat → α
  seeds : Nat → Int
  pos : Nat → Int
  processedLogits : Option ProcessedLogits
  vocabSize : Nat
  applyTemperature : Bool

namespace GumbelArgs

variable {α : Type} [DeviceFloat α] (fns : DeviceFns α) (args : GumbelArgs α)

/-- `logits / temp`, if the temperature is applied here. -/
def applied (tokenIdx : Nat) (logit : α) : α :=
  let temp := args.temperature (args.expandedIdxMapping tokenIdx)
  if temp ≠ 0 ∧ args.applyTemperature = true then logit / temp else logit

def processedAddress (processed : ProcessedLogits) (tokenIdx token : Nat) : Nat :=
  args.expandedIdxMapping tokenIdx * processed.stride + processed.col tokenIdx * args.vocabSize + token

def processedStores (row : Nat → α) (tokenIdx blockIdx size : Nat) : List (Store Nat α) :=
  match args.processedLogits with
  | none => []
  | some processed =>
    (List.range size).filterMap fun lane =>
      let token := blockIdx * size + lane
      if token < args.vocabSize ∧ (processed.activeRows.all fun rows => decide (tokenIdx < rows)) then
        some ⟨args.processedAddress processed tokenIdx token, args.applied tokenIdx (row token)⟩
      else none

/-- The lanes `gumbel_block_argmax` reduces, for a row of logits that is minus infinity
beyond the vocabulary. -/
def noisyLane (logits : Nat → α) (tokenIdx blockIdx size lane : Nat) : α :=
  let reqStateIdx := args.expandedIdxMapping tokenIdx
  let block := blockIdx * size + lane
  let logit := args.applied tokenIdx (logits lane)
  if args.temperature reqStateIdx ≠ 0 then
    if block < args.vocabSize ∧ ⊥ < logit then
      logit + fns.gumbelNoise (args.seeds reqStateIdx) (args.pos tokenIdx) block
    else ⊥
  else logit

/-- `gumbel_block_argmax` without its store: the value and the lane of the maximum. -/
def blockArgmax (logits : Nat → α) (tokenIdx blockIdx size : Nat) : α × Nat :=
  let lanes := args.noisyLane fns logits tokenIdx blockIdx size
  (lanes (argmaxBelow lanes size), argmaxBelow lanes size)

end GumbelArgs

/-- `gumbel_sample`: the grid is all tokens and all blocks of 1024 lanes; the sampled
token of a row is read from the block with the first largest maximum. -/
structure GumbelSampled {α : Type} [DeviceFloat α] (fns : DeviceFns α) (args : GumbelArgs α) (numTokens : Nat)
    (logits : Nat → Nat → α) (before after : Buffer Nat α) (sampled : Nat → Nat) : Prop where
  processed : Launched (List.range numTokens ×ˢ List.range (cdiv args.vocabSize 1024))
    (fun program => args.processedStores (logits program.1) program.1 program.2 1024) before after
  sampled : ∀ tokenIdx < numTokens,
    let best := argmaxBelow (fun block =>
      (args.blockArgmax fns (tile (logits tokenIdx) args.vocabSize 1024 block) tokenIdx block 1024).1)
      (cdiv args.vocabSize 1024)
    sampled tokenIdx = best * 1024 +
      (args.blockArgmax fns (tile (logits tokenIdx) args.vocabSize 1024 best) tokenIdx best 1024).2

end DeepSpark
