import PredictX.MarketStorage

namespace PredictX.TokenUtils

open PredictX.HostCall
open PredictX.HostCall.Call
open PredictX.MarketStorage
open PredictX.SharedTypes
open PredictX.SorobanHost
open PredictX.TokenContracts

variable {N : Network}

def getTokenAddress : MarketCall N Address := do
  let tokenAddress ← load (·.market.tokenAddress)
  okOr tokenAddress .notInitialized

def getTreasuryAddress : MarketCall N Address := do
  let treasuryAddress ← load (·.market.treasuryAddress)
  okOr treasuryAddress .notInitialized

def getPlatformFeeBps : MarketCall N ℕ :=
  load fun w => w.market.platformFeeBps.getD platformFeeBps

/-- `token::Client::transfer`.  The holder debited has to authorise the call
to the token, which the market does by making it. -/
def tokenTransfer (token src dst : Address) (amount : ℤ) : MarketCall N Unit := do
  let env ← context
  let tokens ← load (·.tokens)
  let signed := (env.callee token).authorises src
  let tokens ← orAbort (N.transfer tokens token signed src dst amount)
    ((N.transferError tokens token signed src dst amount).bind PredictXError.ofCode)
  store fun w => { w with tokens }

def transferToContract (src : Address) (amount : ℤ) : MarketCall N Unit := do
  let token ← getTokenAddress
  let env ← context
  tokenTransfer token src env.contract amount

def transferFromContract (dst : Address) (amount : ℤ) : MarketCall N Unit := do
  let token ← getTokenAddress
  let env ← context
  tokenTransfer token env.contract dst amount

def getBalance : MarketCall N ℤ := do
  let token ← getTokenAddress
  let env ← context
  let tokens ← load (·.tokens)
  orAbort (N.query tokens token env.contract)
    ((N.queryError tokens token env.contract).bind PredictXError.ofCode)

section Returns

variable {env : Env} {w w' : World N} {u : Unit} {amount : ℤ}

theorem getTokenAddress_returns {token : Address} :
    Returns (getTokenAddress : MarketCall N Address) env w token w' ↔
      w.market.tokenAddress = some token ∧ w' = w :=
  load_okOr_returns

theorem tokenTransfer_returns {token src dst : Address} :
    Returns (tokenTransfer token src dst amount : MarketCall N Unit) env w u w' ↔
      ∃ tokens, N.transfer w.tokens token ((env.callee token).authorises src)
          src dst amount = some tokens ∧ w' = { w with tokens } := by
  simp [tokenTransfer, bind_returns, context_returns, load_returns, orAbort_returns, store_returns]

theorem transferToContract_returns {src : Address} :
    Returns (transferToContract src amount : MarketCall N Unit) env w u w' ↔
      ∃ token tokens, w.market.tokenAddress = some token ∧
        N.transfer w.tokens token ((env.callee token).authorises src)
          src env.contract amount = some tokens ∧ w' = { w with tokens } := by
  simp [transferToContract, getTokenAddress_returns, bind_returns, context_returns,
    tokenTransfer_returns]

theorem reply_transferToContract_unset {src : Address} (h : w.market.tokenAddress = none) :
    (transferToContract src amount env w : Outcome _ _ _).reply = .error .notInitialized := by
  apply reply_bind_error
  rw [getTokenAddress, reply_bind (load_returns.mpr ⟨rfl, rfl⟩), h]
  rfl

theorem reply_tokenTransfer {token src dst : Address}
    (h : N.transfer w.tokens token ((env.callee token).authorises src) src dst amount = none) :
    (tokenTransfer token src dst amount env w : Outcome _ _ _).reply =
      .trap ((N.transferError w.tokens token ((env.callee token).authorises src) src dst
        amount).bind PredictXError.ofCode) := by
  rw [tokenTransfer, reply_bind (context_returns.mpr ⟨rfl, rfl⟩),
    reply_bind (load_returns.mpr ⟨rfl, rfl⟩)]
  apply reply_bind_trap
  rw [h]
  rfl

theorem reply_transferToContract_refused {token src : Address}
    (h : w.market.tokenAddress = some token)
    (hrefused : N.transfer w.tokens token ((env.callee token).authorises src) src env.contract
      amount = none) :
    (transferToContract src amount env w : Outcome _ _ _).reply =
      .trap ((N.transferError w.tokens token ((env.callee token).authorises src) src env.contract
        amount).bind PredictXError.ofCode) := by
  rw [transferToContract, reply_bind (getTokenAddress_returns.mpr ⟨h, rfl⟩),
    reply_bind (context_returns.mpr ⟨rfl, rfl⟩)]
  exact reply_tokenTransfer hrefused

theorem callee_authorises (env : Env) (token : Address) :
    (env.callee token).authorises env.contract = true := by
  simp [Env.authorises, Env.callee]

theorem reply_transferFromContract_refused {token dst : Address}
    (h : w.market.tokenAddress = some token)
    (hrefused : N.transfer w.tokens token true env.contract dst amount = none) :
    (transferFromContract dst amount env w : Outcome _ _ _).reply =
      .trap ((N.transferError w.tokens token true env.contract dst amount).bind
        PredictXError.ofCode) := by
  rw [transferFromContract, reply_bind (getTokenAddress_returns.mpr ⟨h, rfl⟩),
    reply_bind (context_returns.mpr ⟨rfl, rfl⟩)]
  rw [← callee_authorises env token] at hrefused ⊢
  exact reply_tokenTransfer hrefused

/-- The market authorises a transfer of its own tokens by making the call. -/
theorem transferFromContract_returns {dst : Address} :
    Returns (transferFromContract dst amount : MarketCall N Unit) env w u w' ↔
      ∃ token tokens, w.market.tokenAddress = some token ∧
        N.transfer w.tokens token true env.contract dst amount = some tokens ∧
        w' = { w with tokens } := by
  simp [transferFromContract, getTokenAddress_returns, bind_returns, context_returns,
    tokenTransfer_returns, callee_authorises]

end Returns

end PredictX.TokenUtils
