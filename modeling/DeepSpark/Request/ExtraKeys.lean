import DeepSpark.Lib.PyError
import DeepSpark.Request.Data

/-!
The extra keys that enter a block hash beside the token ids.

Owns `_gen_mm_extra_hash_keys`, `_gen_lora_extra_hash_keys`,
`_gen_prompt_embeds_extra_hash_keys` and `generate_block_hash_extra_keys` of
`v1/core/kv_cache_utils.py`. The keys are concatenated into one flat tuple
without tags, as in the source.
-/

namespace DeepSpark

open Lib

/-- One entry of the extra-key tuple: a LoRA name or cache salt, a multi-modal
identifier with its offset relative to the block, or an embedding digest. -/
inductive ExtraKey where
  | str (value : String)
  | mm (identifier : String) (relativeOffset : Int)
  | digest (value : Bytes)
deriving DecidableEq, Repr

/-- The scan of `_gen_mm_extra_hash_keys` over the items from the cursor on:
the keys of the items that overlap the block, and the next cursor. -/
def mmExtraKeysFrom (startTokenIdx endTokenIdx : Nat) :
    List MultiModalFeatureSpec → Int → List ExtraKey × Int
  | [], currMmIdx => ([], currMmIdx)
  | feature :: rest, currMmIdx =>
    if endTokenIdx > feature.offset then
      if startTokenIdx ≥ feature.offset + feature.length then
        mmExtraKeysFrom startTokenIdx endTokenIdx rest (currMmIdx + 1)
      else
        let key := ExtraKey.mm feature.identifier ((feature.offset : Int) - startTokenIdx)
        if endTokenIdx ≥ feature.offset + feature.length then
          let (keys, nextMmIdx) := mmExtraKeysFrom startTokenIdx endTokenIdx rest (currMmIdx + 1)
          (key :: keys, nextMmIdx)
        else ([key], currMmIdx)
    else ([], currMmIdx)

/-- `_gen_mm_extra_hash_keys`. A negative cursor counts from the last item. -/
def genMmExtraHashKeys (request : Request) (startTokenIdx endTokenIdx : Nat) (startMmIdx : Int) :
    Except PyError (List ExtraKey × Int) :=
  match request.mmFeatures.getLast? with
  | none => .ok ([], startMmIdx)
  | some last =>
    if last.offset + last.length ≤ startTokenIdx then .ok ([], startMmIdx)
    else do
      pyAssert (startMmIdx ≥ 0 || -startMmIdx ≤ request.mmFeatures.length) ""
      let currMmIdx :=
        if startMmIdx < 0 then request.mmFeatures.length + startMmIdx else startMmIdx
      .ok (mmExtraKeysFrom startTokenIdx endTokenIdx
        (request.mmFeatures.drop currMmIdx.toNat) currMmIdx)

def genLoraExtraHashKeys (request : Request) : List ExtraKey :=
  match request.loraRequest with
  | none => []
  | some lora => [.str lora.loraName]

/-- `_gen_prompt_embeds_extra_hash_keys`. The per-block memo of the source
returns the digest it stored, so only the digest appears here. -/
def genPromptEmbedsExtraHashKeys (request : Request) (startTokenIdx endTokenIdx : Nat) :
    List ExtraKey :=
  match request.promptEmbeds with
  | none => []
  | some embedsHash => [.digest (embedsHash startTokenIdx endTokenIdx)]

def cacheSaltKeys (request : Request) (startTokenIdx : Nat) : List ExtraKey :=
  match request.cacheSalt with
  | some salt => if startTokenIdx = 0 ∧ salt ≠ "" then [.str salt] else []
  | none => []

def generateBlockHashExtraKeys (request : Request) (startTokenIdx endTokenIdx : Nat)
    (startMmIdx : Int) : Except PyError (Option (List ExtraKey) × Int) := do
  let (mmExtraKeys, newStartMmIdx) ←
    genMmExtraHashKeys request startTokenIdx endTokenIdx startMmIdx
  let extraKeys := genLoraExtraHashKeys request ++ mmExtraKeys ++
    cacheSaltKeys request startTokenIdx ++
    genPromptEmbedsExtraHashKeys request startTokenIdx endTokenIdx
  if extraKeys.isEmpty then .ok (none, newStartMmIdx)
  else .ok (some extraKeys, newStartMmIdx)

end DeepSpark
