import DeepSpark.StructuredOutput.Advance

/-!
The grammar of a request and its bitmask rows (`v1/structured_output/backend_types.py`,
`v1/structured_output/backend_xgrammar.py`).

Owns the interface of a grammar, what it allows, the state a grammar reaches along draft tokens,
the condition under which a rollback restores it, and the xgrammar implementation of the interface.
-/

namespace DeepSpark

open Lib

/-! ## Rows -/

abbrev BitmaskRow (width : Nat) := Vector (BitVec 32) width

namespace BitmaskRow

variable {width : Nat}

/-- `(packed_bitmask >> bit) & 1`. -/
def allows (row : BitmaskRow width) (token : Nat) : Bool := (row[token / 32]?.getD 0).getLsbD (token % 32)

def full (width : Nat) : BitmaskRow width := Vector.replicate width (BitVec.allOnes 32)

theorem allows_full {token : Nat} (inRow : token < width * 32) : (full width).allows token = true := by
  have inWidth : token / 32 < width := Nat.div_lt_of_lt_mul (Nat.mul_comm width 32 ▸ inRow)
  have inWord : token % 32 < 32 := Nat.mod_lt token (by decide)
  rw [allows, full, Vector.getElem?_replicate, if_pos inWidth, Option.getD_some, BitVec.getLsbD_allOnes]
  exact decide_eq_true inWord

end BitmaskRow

/-! ## The interface -/

/-- `StructuredOutputGrammar`: `fill_bitmask` gives the row it fills. -/
structure StructuredOutputGrammar (σ : Type) (width : Nat) where
  acceptTokens : σ → List TokenId → Bool × σ
  rollback : σ → Nat → σ
  fillBitmask : σ → BitmaskRow width
  isTerminated : σ → Bool

namespace StructuredOutputGrammar

variable {σ : Type} {width : Nat} (grammar : StructuredOutputGrammar σ width)

def allowed (state : σ) (token : Nat) : Bool := grammar.isTerminated state || (grammar.fillBitmask state).allows token

/-- The state after a draft token: a terminated grammar is not asked. -/
def next (state : σ) (token : TokenId) : σ :=
  if grammar.isTerminated state then state else (grammar.acceptTokens state [token]).2

def after (state : σ) (tokens : List TokenId) : σ := tokens.foldl grammar.next state

def Accepts : σ → List TokenId → Prop
  | _, [] => True
  | state, token :: tokens =>
    (grammar.isTerminated state = false → (grammar.acceptTokens state [token]).1 = true) ∧
      Accepts (grammar.next state token) tokens

def Advances : σ → List TokenId → Prop
  | _, [] => True
  | state, token :: tokens =>
    grammar.isTerminated state = false ∧ (grammar.acceptTokens state [token]).1 = true ∧
      Advances (grammar.next state token) tokens

def UndoesAccept : Prop :=
  ∀ state tokens, tokens ≠ [] → grammar.Advances state tokens →
    grammar.rollback (grammar.after state tokens) tokens.length = state

variable {grammar}

theorem after_append (state : σ) (front back : List TokenId) :
    grammar.after state (front ++ back) = grammar.after (grammar.after state front) back := List.foldl_append

theorem Advances.append {state : σ} {tokens : List TokenId} (advances : grammar.Advances state tokens)
    {token : TokenId} (notTerminated : grammar.isTerminated (grammar.after state tokens) = false)
    (accepted : (grammar.acceptTokens (grammar.after state tokens) [token]).1 = true) :
    grammar.Advances state (tokens ++ [token]) := by
  induction tokens generalizing state with
  | nil => exact ⟨notTerminated, accepted, trivial⟩
  | cons first rest ih =>
    exact ⟨advances.1, advances.2.1, ih advances.2.2 notTerminated accepted⟩

end StructuredOutputGrammar

/-- `StructuredOutputBackend`: its grammars, and the buffer it allocates for them. -/
structure StructuredOutputBackend (σ : Type) (width : Nat) extends StructuredOutputGrammar σ width where
  allocateTokenBitmask : (rows : Nat) → Vector (BitmaskRow width) rows

/-! ## xgrammar -/

/-- `xgr.GrammarMatcher`: a token it rejects leaves it unchanged. -/
structure GrammarMatcher (μ : Type) (width : Nat) where
  acceptToken : μ → TokenId → Option μ
  rollback : μ → Nat → μ
  isTerminated : μ → Bool
  fillNextTokenBitmask : μ → BitmaskRow width

structure XgrammarGrammar (μ : Type) where
  matcher : μ
  numProcessedTokens : Int := 0
  isTerminated : Bool := false
deriving DecidableEq

namespace XgrammarGrammar

variable {μ : Type} {width : Nat} (xgr : GrammarMatcher μ width)

def acceptLoop (state : XgrammarGrammar μ) : List TokenId → Bool × XgrammarGrammar μ
  | [] => (true, { state with isTerminated := xgr.isTerminated state.matcher })
  | token :: tokens =>
    match xgr.acceptToken state.matcher token with
    | none => (false, state)
    | some matcher =>
      acceptLoop { state with matcher, numProcessedTokens := state.numProcessedTokens + 1 } tokens

def acceptTokens (state : XgrammarGrammar μ) (tokens : List TokenId) : Bool × XgrammarGrammar μ :=
  if state.isTerminated then (false, state) else acceptLoop xgr state tokens

def rollback (state : XgrammarGrammar μ) (numTokens : Nat) : XgrammarGrammar μ :=
  let matcher := xgr.rollback state.matcher numTokens
  { matcher, numProcessedTokens := state.numProcessedTokens - numTokens, isTerminated := xgr.isTerminated matcher }

def interface : StructuredOutputGrammar (XgrammarGrammar μ) width where
  acceptTokens := acceptTokens xgr
  rollback := rollback xgr
  fillBitmask state := xgr.fillNextTokenBitmask state.matcher
  isTerminated := XgrammarGrammar.isTerminated

def Matches : μ → List TokenId → μ → Prop
  | matcher, [], last => matcher = last
  | matcher, token :: tokens, last => ∃ middle, xgr.acceptToken matcher token = some middle ∧ Matches middle tokens last

variable {xgr}

theorem matches_of_advances {state : XgrammarGrammar μ} {tokens : List TokenId}
    (advances : (interface xgr).Advances state tokens) :
    Matches xgr state.matcher tokens ((interface xgr).after state tokens).matcher ∧
      ((interface xgr).after state tokens).numProcessedTokens = state.numProcessedTokens + tokens.length := by
  induction tokens generalizing state with
  | nil => exact ⟨rfl, (Int.add_zero _).symm⟩
  | cons token rest ih =>
    obtain ⟨notTerminated, accepted, advancesRest⟩ := advances
    replace notTerminated : state.isTerminated = false := notTerminated
    have isNext : (interface xgr).next state token = (acceptLoop xgr state [token]).2 := by
      simp only [StructuredOutputGrammar.next, interface, acceptTokens, notTerminated, Bool.false_eq_true, if_false]
    have isAccepted : (acceptLoop xgr state [token]).1 = true := by
      simpa only [interface, acceptTokens, notTerminated, Bool.false_eq_true, if_false] using accepted
    cases ran : xgr.acceptToken state.matcher token with
    | none => simp [acceptLoop, ran] at isAccepted
    | some middle =>
      obtain ⟨matched, counted⟩ := ih advancesRest
      have isMatcher : ((interface xgr).next state token).matcher = middle := by
        rw [isNext, acceptLoop, ran]
        rfl
      have isCounted : ((interface xgr).next state token).numProcessedTokens = state.numProcessedTokens + 1 := by
        rw [isNext, acceptLoop, ran]
        rfl
      refine ⟨⟨middle, ran, isMatcher ▸ matched⟩, ?_⟩
      show ((interface xgr).after ((interface xgr).next state token) rest).numProcessedTokens = _
      rw [counted, isCounted, List.length_cons]
      omega

/-- Where the matcher's rollback undoes its accepted tokens, and a terminated matcher accepts
none, the grammar's rollback does too. -/
theorem undoesAccept
    (undoes : ∀ matcher tokens last, Matches xgr matcher tokens last → xgr.rollback last tokens.length = matcher)
    (stops : ∀ matcher token, xgr.isTerminated matcher = true → xgr.acceptToken matcher token = none) :
    (interface xgr).UndoesAccept := by
  intro state tokens notEmpty advances
  obtain ⟨matched, counted⟩ := matches_of_advances advances
  have restored : xgr.rollback ((interface xgr).after state tokens).matcher tokens.length = state.matcher :=
    undoes _ _ _ matched
  have wasTerminated : xgr.isTerminated state.matcher = state.isTerminated := by
    obtain ⟨token, rest, rfl⟩ := List.exists_cons_of_ne_nil notEmpty
    have notTerminated : state.isTerminated = false := advances.1
    obtain ⟨middle, ran, -⟩ := matched
    cases terminated : xgr.isTerminated state.matcher with
    | false => exact notTerminated.symm
    | true =>
      rw [stops _ token terminated] at ran
      cases ran
  show rollback xgr ((interface xgr).after state tokens) tokens.length = state
  rw [rollback, restored, counted, wasTerminated, Int.add_sub_cancel]

end XgrammarGrammar

end DeepSpark
