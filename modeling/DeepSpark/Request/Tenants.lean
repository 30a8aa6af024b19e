import DeepSpark.Request.KeyIdentity

/-!
What the extra keys of a block tell apart.

Owns the parts of a request that a block's extra keys stand for, the recovery of
those parts from the flat tuple, and its two gaps: strings carry no tag, so a LoRA
name and a cache salt are confused when no item stands between them, and an empty
salt leaves no key. An item in front of the cursor leaves no key either.
-/

namespace DeepSpark

open Lib Request BlockHasher

namespace ExtraKey

def str? : ExtraKey → Option String
  | .str value => some value
  | _ => none

def mm? : ExtraKey → Option (String × Int)
  | .mm identifier relativeOffset => some (identifier, relativeOffset)
  | _ => none

def digest? : ExtraKey → Option Bytes
  | .digest value => some value
  | _ => none

end ExtraKey

namespace Request

variable (request : Request)

def loraName : Option String := request.loraRequest.map (·.loraName)

/-- The cache salt as the block that starts at a token sees it; an empty salt is
falsy. -/
def saltAt (startTokenIdx : Nat) : Option String :=
  if startTokenIdx = 0 then request.cacheSalt.filter (· ≠ "") else none

/-- The items of a block, each with its identifier and its offset relative to the
block. -/
def itemsAt (startTokenIdx endTokenIdx : Nat) : List (String × Int) :=
  (itemsIn startTokenIdx endTokenIdx request.mmFeatures).map fun feature =>
    (feature.identifier, (feature.offset : Int) - startTokenIdx)

/-- The items of a block in front of the cursor, which the scan skips. -/
def skippedItems (currMmIdx : Int) (startTokenIdx endTokenIdx : Nat) : List (String × Int) :=
  { request with mmFeatures := request.mmFeatures.take (request.itemIndex currMmIdx) }.itemsAt startTokenIdx endTokenIdx

/-- The items of a block from the cursor on. -/
def readItems (currMmIdx : Int) (startTokenIdx endTokenIdx : Nat) : List (String × Int) :=
  { request with mmFeatures := request.mmFeatures.drop (request.itemIndex currMmIdx) }.itemsAt startTokenIdx endTokenIdx

def embedsAt (startTokenIdx endTokenIdx : Nat) : Option Bytes :=
  request.promptEmbeds.map fun embedsHash => embedsHash startTokenIdx endTokenIdx

/-- What two requests must share for a cached block of one to serve the other,
beside the tokens. -/
structure SameTenant (left right : Request) (startTokenIdx endTokenIdx : Nat) : Prop where
  lora : left.loraName = right.loraName
  salt : startTokenIdx = 0 → left.cacheSalt = right.cacheSalt
  items : left.itemsAt startTokenIdx endTokenIdx = right.itemsAt startTokenIdx endTokenIdx
  embeds : left.embedsAt startTokenIdx endTokenIdx = right.embedsAt startTokenIdx endTokenIdx

/-- The LoRA name of one request is the cache salt of another, and the block has
no item from the cursor on that would tell them apart. -/
structure NameIsSaltOf (named salted : Request) (currMmIdx : Int) (startTokenIdx endTokenIdx : Nat) : Prop where
  isFirst : startTokenIdx = 0
  noItems : named.readItems currMmIdx startTokenIdx endTokenIdx = []
  unsalted : named.saltAt startTokenIdx = none
  unnamed : salted.loraName = none
  sameString : named.loraName = salted.saltAt startTokenIdx
  isSalted : named.loraName ≠ none

def OnlyOneHasEmptySalt (left right : Request) (startTokenIdx : Nat) : Prop :=
  startTokenIdx = 0 ∧
    (left.cacheSalt = some "" ∧ right.cacheSalt = none ∨
      left.cacheSalt = none ∧ right.cacheSalt = some "")

variable {request} {left right : Request} {startTokenIdx endTokenIdx : Nat} {leftMmIdx rightMmIdx : Int}

theorem itemsAt_eq (currMmIdx : Int) : request.itemsAt startTokenIdx endTokenIdx =
    request.skippedItems currMmIdx startTokenIdx endTokenIdx ++
      request.readItems currMmIdx startTokenIdx endTokenIdx := by
  rw [skippedItems, readItems, itemsAt, itemsAt, itemsAt, ← List.map_append, itemsIn, itemsIn, itemsIn,
    ← List.filter_append, List.take_append_drop]

theorem keysWith_eq (request : Request) (startTokenIdx endTokenIdx : Nat) (currMmIdx : Int) :
    request.keysWith (itemsIn startTokenIdx endTokenIdx (request.mmFeatures.drop (request.itemIndex currMmIdx)))
        startTokenIdx endTokenIdx =
      request.loraName.toList.map .str ++
        (request.readItems currMmIdx startTokenIdx endTokenIdx).map (fun item => .mm item.1 item.2) ++
        (request.saltAt startTokenIdx).toList.map .str ++
        (request.embedsAt startTokenIdx endTokenIdx).toList.map .digest := by
  have lora : genLoraExtraHashKeys request = request.loraName.toList.map .str := by
    unfold genLoraExtraHashKeys loraName
    cases request.loraRequest with
    | none => rfl
    | some lora => rfl
  have items : (itemsIn startTokenIdx endTokenIdx (request.mmFeatures.drop (request.itemIndex currMmIdx))).map
        (·.key startTokenIdx) =
      (request.readItems currMmIdx startTokenIdx endTokenIdx).map fun item => .mm item.1 item.2 := by
    rw [readItems, itemsAt, List.map_map]
    rfl
  have salt : cacheSaltKeys request startTokenIdx =
      (request.saltAt startTokenIdx).toList.map .str := by
    unfold cacheSaltKeys saltAt
    cases request.cacheSalt with
    | none => simp
    | some salt =>
      by_cases isFirst : startTokenIdx = 0
      · by_cases isEmpty : salt = "" <;> simp [isFirst, isEmpty, Option.filter]
      · simp [isFirst]
  have embeds : genPromptEmbedsExtraHashKeys request startTokenIdx endTokenIdx =
      (request.embedsAt startTokenIdx endTokenIdx).toList.map .digest := by
    unfold genPromptEmbedsExtraHashKeys embedsAt
    cases request.promptEmbeds with
    | none => rfl
    | some embedsHash => rfl
  rw [keysWith, lora, items, salt, embeds]

private theorem filterMap_none {Source Target : Type} (values : List Source) :
    values.filterMap (fun _ => (none : Option Target)) = [] :=
  List.filterMap_eq_nil_iff.mpr fun _ _ => rfl

/-- What the flat tuple determines: the items, the digest, and the strings up to
their place; with an item between them their place as well. -/
theorem parts_of_keys {leftName rightName leftSalt rightSalt : Option String}
    {leftItems rightItems : List (String × Int)} {leftDigest rightDigest : Option Bytes}
    (same : leftName.toList.map ExtraKey.str ++ leftItems.map (fun item => .mm item.1 item.2) ++
        leftSalt.toList.map .str ++ leftDigest.toList.map .digest =
      rightName.toList.map ExtraKey.str ++ rightItems.map (fun item => .mm item.1 item.2) ++
        rightSalt.toList.map .str ++ rightDigest.toList.map .digest) :
    leftItems = rightItems ∧ leftDigest = rightDigest ∧
      leftName.toList ++ leftSalt.toList = rightName.toList ++ rightSalt.toList ∧
      (leftItems ≠ [] → leftName = rightName) := by
  have items := congrArg (List.filterMap ExtraKey.mm?) same
  have digests := congrArg (List.filterMap ExtraKey.digest?) same
  have strings := congrArg (List.filterMap ExtraKey.str?) same
  simp only [List.filterMap_append, List.filterMap_map, Function.comp_def, ExtraKey.mm?,
    ExtraKey.digest?, ExtraKey.str?, List.filterMap_some, filterMap_none, List.append_nil,
    List.nil_append] at items digests strings
  rw [List.filterMap_some, List.filterMap_some] at items
  have sameDigest : leftDigest = rightDigest := by
    simpa only [Option.head?_toList] using congrArg List.head? digests
  refine ⟨items, sameDigest, strings, fun hasItems => ?_⟩
  subst items
  obtain ⟨first, rest, rfl⟩ := List.exists_cons_of_ne_nil hasItems
  -- the key before the first item, if any, is the LoRA name
  cases leftName with
  | none =>
    cases rightName with
    | none => rfl
    | some name => exact absurd (List.head_eq_of_cons_eq same) nofun
  | some name =>
    cases rightName with
    | none => exact absurd (List.head_eq_of_cons_eq same) nofun
    | some other =>
      have heads := List.head_eq_of_cons_eq same
      injection heads with heads
      rw [heads]

theorem isFirst_of_saltAt {salt : String} (isSalt : request.saltAt startTokenIdx = some salt) :
    startTokenIdx = 0 := by
  by_contra notFirst
  rw [saltAt, if_neg notFirst] at isSalt
  cases isSalt

theorem cacheSalt_of_saltAt (isFirst : startTokenIdx = 0)
    (same : left.saltAt startTokenIdx = right.saltAt startTokenIdx)
    (noneEmpty : ¬ OnlyOneHasEmptySalt left right startTokenIdx) :
    left.cacheSalt = right.cacheSalt := by
  rw [saltAt, saltAt, if_pos isFirst, if_pos isFirst] at same
  cases isLeft : left.cacheSalt with
  | none =>
    cases isRight : right.cacheSalt with
    | none => rfl
    | some salt =>
      rw [isLeft, isRight] at same
      by_cases isEmpty : salt = ""
      · exact absurd ⟨isFirst, .inr ⟨isLeft, isEmpty ▸ isRight⟩⟩ noneEmpty
      · simp [Option.filter, isEmpty] at same
  | some salt =>
    cases isRight : right.cacheSalt with
    | none =>
      rw [isLeft, isRight] at same
      by_cases isEmpty : salt = ""
      · exact absurd ⟨isFirst, .inl ⟨isEmpty ▸ isLeft, isRight⟩⟩ noneEmpty
      · simp [Option.filter, isEmpty] at same
    | some other =>
      rw [isLeft, isRight] at same
      by_cases isEmpty : salt = ""
      · by_cases otherEmpty : other = ""
        · rw [isEmpty, otherEmpty]
        · simp [Option.filter, isEmpty, otherEmpty] at same
      · by_cases otherEmpty : other = ""
        · simp [Option.filter, isEmpty, otherEmpty] at same
        · simpa [Option.filter, isEmpty, otherEmpty] using same

/-- Without items, a LoRA name on one side only stands for a salt on the other. -/
theorem nameIsSaltOf_of_strings {name : String}
    (noItems : left.readItems leftMmIdx startTokenIdx endTokenIdx = []) (isLeft : left.loraName = some name)
    (isRight : right.loraName = none)
    (strings : left.loraName.toList ++ (left.saltAt startTokenIdx).toList =
      right.loraName.toList ++ (right.saltAt startTokenIdx).toList) :
    NameIsSaltOf left right leftMmIdx startTokenIdx endTokenIdx := by
  rw [isLeft, isRight] at strings
  cases isSalt : right.saltAt startTokenIdx with
  | none =>
    rw [isSalt] at strings
    cases strings
  | some salt =>
    rw [isSalt] at strings
    injection strings with sameString noMore
    have unsalted : left.saltAt startTokenIdx = none := by
      cases hasSalt : left.saltAt startTokenIdx with
      | none => rfl
      | some other =>
        rw [hasSalt] at noMore
        cases noMore
    exact ⟨isFirst_of_saltAt isSalt, noItems, unsalted, isRight,
      by rw [isLeft, isSalt, sameString], by rw [isLeft]; exact nofun⟩

/-- Requests with the same extra keys for a block share everything the keys stand
for exactly if the cursors skip the same items, no LoRA name stands for a salt and no
salt is empty. -/
theorem sameTenant_iff_of_blockKeys
    (same : left.blockKeysFrom (left.itemIndex leftMmIdx) startTokenIdx endTokenIdx =
      right.blockKeysFrom (right.itemIndex rightMmIdx) startTokenIdx endTokenIdx) :
    SameTenant left right startTokenIdx endTokenIdx ↔
      left.skippedItems leftMmIdx startTokenIdx endTokenIdx =
          right.skippedItems rightMmIdx startTokenIdx endTokenIdx ∧
        ¬ NameIsSaltOf left right leftMmIdx startTokenIdx endTokenIdx ∧
        ¬ NameIsSaltOf right left rightMmIdx startTokenIdx endTokenIdx ∧
        ¬ OnlyOneHasEmptySalt left right startTokenIdx := by
  have sameKeys := keyTuple_injective same
  rw [keysWith_eq, keysWith_eq] at sameKeys
  obtain ⟨items, embeds, strings, inPlace⟩ := parts_of_keys sameKeys
  constructor
  · intro tenant
    have skipped := tenant.items
    rw [itemsAt_eq leftMmIdx, itemsAt_eq rightMmIdx, items] at skipped
    refine ⟨List.append_cancel_right skipped, fun mistaken => ?_, fun mistaken => ?_, fun one => ?_⟩
    · exact mistaken.isSalted (tenant.lora.trans mistaken.unnamed)
    · exact mistaken.isSalted (tenant.lora.symm.trans mistaken.unnamed)
    · have same := tenant.salt one.1
      rcases one.2 with ⟨isLeft, isRight⟩ | ⟨isLeft, isRight⟩
      · rw [isLeft, isRight] at same
        cases same
      · rw [isLeft, isRight] at same
        cases same
  · rintro ⟨skipped, leftSound, rightSound, noneEmpty⟩
    have sameName : left.loraName = right.loraName := by
      by_cases noItems : left.readItems leftMmIdx startTokenIdx endTokenIdx = []
      · cases isLeft : left.loraName with
        | none =>
          cases isRight : right.loraName with
          | none => rfl
          | some name =>
            exact absurd (nameIsSaltOf_of_strings (items ▸ noItems) isRight isLeft strings.symm)
              rightSound
        | some name =>
          cases isRight : right.loraName with
          | none => exact absurd (nameIsSaltOf_of_strings noItems isLeft isRight strings) leftSound
          | some other =>
            rw [isLeft, isRight] at strings
            injection strings with sameString _
            rw [sameString]
      · exact inPlace noItems
    rw [sameName] at strings
    have sameSalt : left.saltAt startTokenIdx = right.saltAt startTokenIdx := by
      simpa only [Option.head?_toList] using
        congrArg List.head? (List.append_cancel_left strings)
    refine ⟨sameName, fun isFirst => cacheSalt_of_saltAt isFirst sameSalt noneEmpty, ?_, embeds⟩
    rw [itemsAt_eq leftMmIdx, itemsAt_eq rightMmIdx, skipped, items]

def firstInput (hasher : BlockHasher) (request : Request) : HashInput :=
  ⟨hasher.noneHash, tokenBlock hasher.blockSize request.allTokenIds 0,
    request.blockKeysFrom 0 0 hasher.blockSize⟩

theorem firstHash_eq {hasher : BlockHasher} {blockHash : BlockHash} {rest : List BlockHash}
    (inOrder : InPromptOrder request.mmFeatures) (positive : 0 < hasher.blockSize)
    (fresh : request.blockHashes = [])
    (hashed : hasher.requestBlockHasher request = .ok (blockHash :: rest)) :
    blockHash = hasher.cachingHashFn (firstInput hasher request) := by
  rw [requestBlockHasher_fresh inOrder positive fresh] at hashed
  have isChain := Except.ok.inj hashed
  have hasBlock : 0 < request.allTokenIds.length / hasher.blockSize := by
    rw [← keyedChain_length hasher (hasher.keysFrom request 0), isChain]
    exact Nat.succ_pos _
  obtain ⟨blocks, isRange⟩ : ∃ blocks,
      List.range (request.allTokenIds.length / hasher.blockSize) = 0 :: blocks :=
    ⟨_, (List.range_eq_range' ▸ List.range'_eq_cons_iff.mpr ⟨rfl, hasBlock, rfl⟩)⟩
  rw [keyedChain, keyedBlocks, isRange, List.map_cons, HashChain.digests]
    at isChain
  injection isChain with isHead
  rw [← isHead, keyedLink, hashBlockTokens, keysFrom, Nat.zero_mul,
    Nat.zero_add]
  simp [firstInput]

end Request

/-- An unhashed request of a tenant with two prompt tokens. -/
def tenantRequest (loraRequest : Option LoRARequest) (cacheSalt : Option String)
    (mmFeatures : List MultiModalFeatureSpec) : Request :=
  { unhashedRequest 0 [1, 2] with loraRequest, cacheSalt, mmFeatures }

end DeepSpark
