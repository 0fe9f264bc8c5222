import Akhira.Base.Json
import Akhira.Base.Utf8
import Akhira.IbcTransfer.OnRecvPacket
import Akhira.Verif.TokenRegistry

/-!
# The value of incoming coins

The scaling by a power of ten is exact wherever it does not panic. The coins that are burned are
those of the registry's spelling of the denomination, while the receiver was credited with those of
the packet's. So the value is preserved when both are spelled alike, and only then.
-/
namespace Akhira.Verif.IbcTransfer

open Akhira.Base Akhira.Sdk Akhira.TokenRegistry Akhira.IbcTransfer Akhira.Verif.TokenRegistry

section Scaling

/-- A single coin is of an amount that is not negative, and of nothing else. -/
theorem singleCoin_ok {denom : Denom} {amount : SInt} {coins : Coins}
    (made : singleCoin denom amount = .ok coins) :
    0 ≤ amount.val ∧ ∀ other, coins.amountOf other = amountIn denom amount.val.toNat other := by
  simp only [singleCoin, Result.bind_ok] at made
  obtain ⟨coin, minted, set⟩ := made
  obtain ⟨same, value⟩ := Coin.newCoin_ok minted
  have amounts := (Coins.newCoins_ok set).2
  have number : coin.amount = amount.val.toNat := by omega
  refine ⟨by omega, fun other => ?_⟩
  rw [amounts, ← number, ← same]
  simp [Coins.amountOf, amountIn]

/-- A conversion that does not panic multiplies by the power of ten. -/
theorem convertIncomingCoins_ok {env : Environment} {text : String} {diff : Nat}
    {amount converted : SInt} (parsed : env.newIntFromString text = some amount)
    (computed : convertIncomingCoins env text diff = .ok converted) :
    converted.val = amount.val * 10 ^ diff := by
  simp only [convertIncomingCoins, increasePrecision, Result.bind_ok, Outcome.present_ok,
    SInt.ofInt_ok, parsed, Option.some.injEq] at computed
  obtain ⟨_, rfl, increased, ⟨power, powered, product⟩, truncated, cut, same⟩ := computed
  have factor := Dec.power_integral 10 powered
  have scaled := Dec.mulTruncate_integral rfl factor product
  rw [same, Dec.truncateInt_integral scaled cut]

end Scaling

section Amounts

variable {denom other : Denom} {amount : Nat}

/-- The one denomination has the whole amount. -/
@[simp] theorem amountIn_self : amountIn denom amount denom = amount := if_pos rfl

/-- Every other denomination has nothing. -/
theorem amountIn_ne (differs : denom ≠ other) : amountIn denom amount other = 0 := if_neg differs

/-- Nothing is nothing in every denomination. -/
@[simp] theorem amountIn_zero : amountIn denom 0 other = 0 := ite_self 0

/-- The share of nothing is nothing. -/
theorem share_zero (address holder : AccAddress) : Ledger.share address holder 0 = 0 := ite_self 0

/-- A denomination with the whole of a positive amount is the one. -/
theorem eq_of_amountIn (positive : amount ≠ 0) (whole : amountIn denom amount other = amount) :
    denom = other := by
  by_contra differs
  rw [amountIn_ne differs] at whole
  exact positive whole.symm

end Amounts

section Conversion

variable {env : Environment} {keeper : TransferKeeper env} {registry : Registry}
  {bank middle next : Bank} {packet : Packet} {data : FungibleTokenPacketData}
  {minted convertTo : RegistryEntry} {receiver : AccAddress} {amount : SInt}

/-- The escrow of the channel that a packet comes in by. -/
def escrowOf (env : Environment) (packet : Packet) : AccAddress :=
  env.getEscrowAddress packet.destinationPort packet.destinationChannel

/-- The escrow of the transfer module for the channel. -/
def transferEscrowOf (env : Environment) (packet : Packet) : AccAddress :=
  env.transferEscrowAddress packet.destinationPort packet.destinationChannel

/-- The amount in units. -/
def unitAmount (minted convertTo : RegistryEntry) (amount : SInt) : Nat :=
  amount.val.toNat * 10 ^ (convertTo.decimals - minted.decimals).toNat

/-- Coins are converted from fewer decimals to more, and only with decimals on both sides. -/
theorem converts_iff : converts minted convertTo = true ↔
    0 < convertTo.decimals ∧ 0 < minted.decimals ∧ minted.decimals < convertTo.decimals := by
  rw [converts, decide_eq_true_eq]

/-- A conversion burns the coins of the registry's spelling and moves the units out of escrow. -/
structure Converted (env : Environment) (packet : Packet) (minted convertTo : RegistryEntry)
    (bank next : Bank) (receiver : AccAddress) (amount : SInt) : Prop where
  sign : 0 ≤ amount.val
  supply : ∀ denom, next.supply denom + amountIn minted.denom amount.val.toNat denom =
    bank.supply denom
  balance : ∀ address denom, next.ledger.balance address denom +
      Ledger.share receiver address (amountIn minted.denom amount.val.toNat denom) +
      Ledger.share (escrowOf env packet) address
        (amountIn convertTo.denom (unitAmount minted convertTo amount) denom) =
    bank.ledger.balance address denom + Ledger.share receiver address
      (amountIn convertTo.denom (unitAmount minted convertTo amount) denom)

/-- A conversion that is executed burns the vouchers and pays the units. -/
theorem execConv_converted (fewer : minted.decimals < convertTo.decimals)
    (decoded : env.chain.accAddressFromBech32 data.receiver = some receiver)
    (parsed : env.newIntFromString data.amount = some amount)
    (executed : execConvForIncomingCoins env bank minted convertTo packet data = .ok next) :
    Converted env packet minted convertTo bank next receiver amount := by
  simp only [execConvForIncomingCoins, Chain.decode, Result.bind_ok, Outcome.present_ok, decoded,
    parsed, Option.some.injEq, if_pos fewer, Outcome.noting_ok] at executed
  obtain ⟨_, rfl, _, rfl, incoming, made, taken, moved, burned, burn, _, -, converted, scaled,
    final, units, released⟩ := executed
  obtain ⟨sign, incomingAmount⟩ := singleCoin_ok made
  obtain ⟨-, finalAmount⟩ := singleCoin_ok units
  obtain ⟨movedSupply, movedBalance⟩ := Bank.toModule_ok moved
  obtain ⟨burnedBalance, burnedSupply⟩ := Bank.burnCoins_ok burn
  obtain ⟨releasedSupply, releasedBalance⟩ := Bank.sendCoins_ok released
  have scale : converted.val.toNat = unitAmount minted convertTo amount := by
    rw [convertIncomingCoins_ok parsed scaled, unitAmount]
    obtain ⟨number, whole⟩ := Int.eq_ofNat_of_zero_le sign
    rw [whole]
    exact Int.toNat_natCast _
  refine ⟨sign, fun denom => ?_, fun address denom => ?_⟩
  · rw [releasedSupply, ← incomingAmount, burnedSupply, movedSupply]
  · have first := movedBalance address denom
    have second := burnedBalance address denom
    have third := releasedBalance address denom
    rw [incomingAmount] at first second
    rw [finalAmount, scale] at third
    change _ + Ledger.share (escrowOf env packet) address _ = _ at third
    omega

/-- Two entries that call for a conversion are for different denominations, even up to letter
case. -/
theorem unit_ne {denom : Denom} (found : getEntry registry denom = .ok minted)
    (unit : getEntry registry minted.unitDenom = .ok convertTo)
    (fewer : minted.decimals < convertTo.decimals) :
    convertTo.denom ≠ denom ∧ convertTo.denom ≠ minted.denom := by
  have apart : folded convertTo.denom ≠ folded denom := by
    intro same
    have again := @getEntry_congr registry _ _ ((getEntry_folded unit).symm.trans same)
    rw [unit, found, Except.ok.injEq] at again
    rw [again] at fewer
    exact lt_irrefl _ fewer
  refine ⟨fun same => apart (congrArg folded same), fun same => apart ?_⟩
  rw [same, getEntry_folded found]

/-- The value of a packet is preserved as an amount of a unit: the receiver has so much more of it
and as much of everything else as before, the escrow has so much less of it, and of what exists
only a returned voucher is gone. -/
structure Preserved (env : Environment) (packet : Packet) (data : FungibleTokenPacketData)
    (minted convertTo : RegistryEntry) (bank next : Bank) (receiver : AccAddress) (amount : SInt)
    (unit : Denom) : Prop where
  receiver : ∀ denom, next.ledger.balance receiver denom = bank.ledger.balance receiver denom +
    amountIn unit (unitAmount minted convertTo amount) denom
  escrow : next.ledger.balance (escrowOf env packet) unit + unitAmount minted convertTo amount =
    bank.ledger.balance (escrowOf env packet) unit
  supply : ∀ denom, next.supply denom + (if packet.returns data then
    amountIn (getMintedDenomFromPacket env packet data) amount.val.toNat denom else 0) =
      bank.supply denom

/-- A successful acknowledgement of a packet that is converted has credited the packet and converted
the credit. -/
theorem acknowledged_steps (read : env.unmarshalJSON packet.data = some data)
    (found : getEntry registry (getMintedDenomFromPacket env packet data) = .ok minted)
    (unit : getEntry registry minted.unitDenom = .ok convertTo)
    (runs : converts minted convertTo = true)
    (acknowledged : onRecvPacketWhitelistConvert env keeper registry bank packet = .ok next) :
    ∃ middle receiver amount, Credits env packet data bank middle receiver amount ∧
      Converted env packet minted convertTo middle next receiver amount := by
  simp only [onRecvPacketWhitelistConvert, Result.bind_ok, Outcome.present_ok, read,
    Option.some.injEq, Outcome.replacing_ok] at acknowledged
  obtain ⟨_, rfl, middle, received, entry, looked, -, -, rest⟩ := acknowledged
  obtain rfl : minted = entry := by
    rw [found] at looked
    exact Except.ok.inj looked
  rw [unit] at rest
  simp only [runs, if_true, Outcome.wrapping_ok] at rest
  obtain ⟨receiver, amount, credits⟩ := keeper.credits _ _ _ _ received
  exact ⟨middle, receiver, amount, credits,
    execConv_converted (converts_iff.mp runs).2.2 credits.decoded credits.parsed rest⟩

/-- What the receiver is credited with comes from itself. -/
def selfReleased (env : Environment) (packet : Packet) (data : FungibleTokenPacketData)
    (receiver : AccAddress) : Prop :=
  packet.returns data = true ∧ receiver = transferEscrowOf env packet

/-- Whether a release goes to its own escrow is decided by comparing addresses. -/
instance (env : Environment) (packet : Packet) (data : FungibleTokenPacketData)
    (receiver : AccAddress) : Decidable (selfReleased env packet data receiver) :=
  inferInstanceAs (Decidable (_ ∧ _))

/-- What a packet and its conversion change for the receiver. -/
theorem receiver_effect (credits : Credits env packet data bank middle receiver amount)
    (converted : Converted env packet minted convertTo middle next receiver amount)
    (outside : receiver ≠ escrowOf env packet) (denom : Denom) :
    next.ledger.balance receiver denom + amountIn minted.denom amount.val.toNat denom +
        (if selfReleased env packet data receiver then
          amountIn (getMintedDenomFromPacket env packet data) amount.val.toNat denom else 0) =
      bank.ledger.balance receiver denom +
        amountIn (getMintedDenomFromPacket env packet data) amount.val.toNat denom +
        amountIn convertTo.denom (unitAmount minted convertTo amount) denom := by
  have credit := credits.balance receiver denom
  have change := converted.balance receiver denom
  rw [Ledger.share_self, Ledger.share_self, Ledger.share_other outside] at change
  rw [Ledger.share_self] at credit
  have source : (if packet.returns data = true then Ledger.share
      (env.transferEscrowAddress packet.destinationPort packet.destinationChannel) receiver
      (amountIn (getMintedDenomFromPacket env packet data) amount.val.toNat denom) else 0) =
      if selfReleased env packet data receiver then
        amountIn (getMintedDenomFromPacket env packet data) amount.val.toNat denom else 0 := by
    by_cases returning : packet.returns data = true
    · simp only [returning, if_true, selfReleased, true_and, Ledger.share, transferEscrowOf]
    · simp only [returning, if_false, selfReleased, false_and, Bool.false_eq_true]
  rw [source] at credit
  omega

/-- What they change of the unit in escrow. -/
theorem escrow_effect (credits : Credits env packet data bank middle receiver amount)
    (converted : Converted env packet minted convertTo middle next receiver amount)
    (outside : receiver ≠ escrowOf env packet)
    (apart : convertTo.denom ≠ getMintedDenomFromPacket env packet data) :
    next.ledger.balance (escrowOf env packet) convertTo.denom +
        unitAmount minted convertTo amount =
      bank.ledger.balance (escrowOf env packet) convertTo.denom := by
  have credit := credits.balance (escrowOf env packet) convertTo.denom
  have change := converted.balance (escrowOf env packet) convertTo.denom
  rw [Ledger.share_self, Ledger.share_other outside.symm, Ledger.share_other outside.symm,
    amountIn_self] at change
  rw [amountIn_ne apart.symm, share_zero, share_zero, ite_self] at credit
  omega

/-- A converted packet preserves its value exactly when it has none, or when the registry spells the
credited denomination as the packet does, the unit is that of the registry, and the coins were not
released to the account they were held in. -/
theorem conversion_preserves_iff (env : Environment) (keeper : TransferKeeper env)
    (registry : Registry) (bank next : Bank) (packet : Packet) (data : FungibleTokenPacketData)
    (minted convertTo : RegistryEntry) (receiver : AccAddress) (amount : SInt)
    (read : env.unmarshalJSON packet.data = some data)
    (found : getEntry registry (getMintedDenomFromPacket env packet data) = .ok minted)
    (unitFound : getEntry registry minted.unitDenom = .ok convertTo)
    (runs : converts minted convertTo = true)
    (acknowledged : onRecvPacketWhitelistConvert env keeper registry bank packet = .ok next)
    (decoded : env.chain.accAddressFromBech32 data.receiver = some receiver)
    (parsed : env.newIntFromString data.amount = some amount)
    (outside : receiver ≠ escrowOf env packet) (unit : Denom) :
    Preserved env packet data minted convertTo bank next receiver amount unit ↔
      amount.val = 0 ∨ (minted.denom = getMintedDenomFromPacket env packet data ∧
        unit = convertTo.denom ∧ ¬ selfReleased env packet data receiver) := by
  obtain ⟨middle, account, value, credits, converted⟩ :=
    acknowledged_steps read found unitFound runs acknowledged
  obtain rfl : receiver = account := Option.some.inj (decoded.symm.trans credits.decoded)
  obtain rfl : amount = value := Option.some.inj (parsed.symm.trans credits.parsed)
  have fewer := (converts_iff.mp runs).2.2
  obtain ⟨apart, different⟩ := unit_ne found unitFound fewer
  have received := receiver_effect credits converted outside
  constructor
  · intro preserved
    by_cases none : amount.val = 0
    · exact .inl none
    · right
      have sign := converted.sign
      have some_ : amount.val.toNat ≠ 0 := by omega
      have units : unitAmount minted convertTo amount ≠ 0 :=
        Nat.mul_ne_zero some_ (pow_ne_zero _ (by decide))
      -- the unit is what the receiver has more of
      have gained := received convertTo.denom
      rw [preserved.receiver, amountIn_ne different.symm, amountIn_ne apart.symm, ite_self,
        amountIn_self] at gained
      obtain rfl := eq_of_amountIn units (show amountIn unit _ convertTo.denom = _ by omega)
      -- and of the burned coins nothing is missing
      have kept := received minted.denom
      rw [preserved.receiver, amountIn_ne different, amountIn_self] at kept
      have whole : amountIn (getMintedDenomFromPacket env packet data) amount.val.toNat
          minted.denom = amount.val.toNat := by
        have most : amountIn (getMintedDenomFromPacket env packet data) amount.val.toNat
            minted.denom ≤ amount.val.toNat := by
          unfold amountIn
          split <;> omega
        omega
      refine ⟨(eq_of_amountIn some_ whole).symm, rfl, fun self => ?_⟩
      rw [if_pos self, whole] at kept
      omega
  · rintro (none | ⟨spelled, rfl, others⟩)
    · have zero : amount.val.toNat = 0 := by omega
      have units : unitAmount minted convertTo amount = 0 := by rw [unitAmount, zero, Nat.zero_mul]
      constructor
      · intro denom
        have same := received denom
        simp only [zero, units, amountIn_zero, ite_self] at same ⊢
        exact same
      · have credit := credits.balance (escrowOf env packet) unit
        have change := converted.balance (escrowOf env packet) unit
        simp only [zero, units, amountIn_zero, share_zero, ite_self] at credit change ⊢
        omega
      · intro denom
        have credit := credits.supply denom
        have change := converted.supply denom
        simp only [zero, amountIn_zero, ite_self] at credit change ⊢
        omega
    · constructor
      · intro denom
        have same := received denom
        rw [if_neg others, spelled] at same
        omega
      · exact escrow_effect credits converted outside apart
      · intro denom
        have credit := credits.supply denom
        have change := converted.supply denom
        rw [spelled] at change
        split_ifs at credit ⊢ <;> omega

end Conversion

section Transfer

/-- `OnRecvPacket` of the transfer module: it releases what returns and mints the rest. -/
def onRecvPacket (env : Environment) (packet : Packet) (data : FungibleTokenPacketData)
    (bank : Bank) : Outcome Bank := do
  let amount ← Outcome.present (env.newIntFromString data.amount)
    (.error (.register "transfer" 5 "invalid token amount"))
  Outcome.require (0 < amount.val) (.register "transfer" 5 "invalid token amount")
  let receiver ← env.chain.decode data.receiver
  let coins ← singleCoin (getMintedDenomFromPacket env packet data) amount
  if packet.returns data then
    bank.sendCoins env.locked (transferEscrowOf env packet) receiver coins
  else do
    let bank ← bank.mintCoins env.chain "transfer" coins
    bank.sendCoinsFromModuleToAccount env.chain env.locked "transfer" receiver coins

/-- The sample transfer keeper credits the receiver as the laws of the keeper say. -/
theorem onRecvPacket_credits {env : Environment} {packet : Packet}
    {data : FungibleTokenPacketData} {bank next : Bank}
    (received : onRecvPacket env packet data bank = .ok next) :
    ∃ receiver amount, Credits env packet data bank next receiver amount := by
  simp only [onRecvPacket, Chain.decode, Result.bind_ok, Outcome.present_ok,
    Outcome.require_ok] at received
  obtain ⟨amount, parsed, _, -, receiver, decoded, coins, made, rest⟩ := received
  have amounts := (singleCoin_ok made).2
  refine ⟨receiver, amount, decoded, parsed, fun denom => ?_, fun address denom => ?_⟩
  all_goals rw [← amounts denom]
  all_goals by_cases returning : packet.returns data = true
  · rw [if_pos returning] at rest ⊢
    rw [(Bank.sendCoins_ok rest).1, Nat.add_zero]
  · rw [if_neg returning] at rest ⊢
    rw [Result.bind_ok] at rest
    obtain ⟨raised, minted, paid⟩ := rest
    rw [(Bank.fromModule_ok paid).2.1, (Bank.mintCoins_ok minted).2]
  · rw [if_pos returning] at rest ⊢
    exact (Bank.sendCoins_ok rest).2 address denom
  · rw [if_neg returning] at rest ⊢
    rw [Result.bind_ok] at rest
    obtain ⟨raised, minted, paid⟩ := rest
    have moved := (Bank.fromModule_ok paid).2.2 address denom
    rw [(Bank.mintCoins_ok minted).1] at moved
    omega

/-- A keeper that keeps the laws. -/
def transferKeeper (env : Environment) : TransferKeeper env :=
  ⟨onRecvPacket env, fun _ _ _ _ received => onRecvPacket_credits received⟩

end Transfer

section Sample

/-- The texts of an object of texts. -/
def readData (bytes : List UInt8) : Option FungibleTokenPacketData := do
  let text ← (Utf8.characters bytes).mapM id
  let members ← Json.readObject text
  let field := fun name : String =>
    match members.lookup name.toList with
    | some (.text _ value) => some (String.ofList value)
    | _ => none
  some ⟨← field "denom", ← field "amount", ← field "receiver"⟩

/-- A stand-in for the hash of a channel's address. -/
def channelAddress (tag port channel : String) : AccAddress :=
  Utf8.encode (tag ++ port ++ "/" ++ channel).toList

/-- A chain with one account. -/
def channelEnvironment : Environment where
  chain :=
    { accAddressFromBech32 := fun text => if text = "alice" then some [1] else none
      accAddressText := fun address => if address = [1] then "alice" else ""
      moduleAddress := fun name => Utf8.encode name.toList
      blockedAddr := fun _ => false }
  locked := fun _ _ => 0
  newIntFromString := fun text =>
    match Json.readNumber text.toList with
    | some (value, []) => SInt.ofText value
    | _ => none
  hash := id
  getEscrowAddress := channelAddress "ics20-sc.1/"
  transferEscrowAddress := channelAddress "ics20-1/"
  unmarshalJSON := readData

/-- A packet that returns one xaku. -/
def xakuPacket : Packet where
  sourcePort := "transfer"
  sourceChannel := "channel-0"
  destinationPort := "transfer"
  destinationChannel := "channel-1"
  data := Utf8.encode
    "\x7b\"amount\":\"1\",\"denom\":\"transfer/channel-0/xaku\",\"receiver\":\"alice\"\x7d".toList

/-- The packet's data, one unit of a token of ten decimals. -/
def xakuData : FungibleTokenPacketData := ⟨"transfer/channel-0/xaku", "1", "alice"⟩

/-- The packet is read as this data. -/
theorem xakuPacket_read : channelEnvironment.unmarshalJSON xakuPacket.data = some xakuData := by
  decide +kernel

/-- The amount of the packet. -/
def oneXaku : SInt := ⟨1, SInt.one_bounded⟩

/-- A registry with a spelling of xaku. -/
def xakuRegistry (spelling : Denom) : Registry := [⟨spelling, 10, [], "aku"⟩, ⟨"aku", 18, [], "aku"⟩]

/-- Both escrows hold what was sent, and the receiver holds some XAKU. -/
def escrowedBank : Bank where
  ledger := ⟨fun address denom =>
    if address = escrowOf channelEnvironment xakuPacket ∧ denom = "aku" then 10 ^ 18
    else if address = transferEscrowOf channelEnvironment xakuPacket ∧ denom = "xaku" then 10 ^ 10
    else if address = [1] ∧ denom = "XAKU" then 5
    else 0⟩
  supply := fun denom => if denom = "aku" then 10 ^ 18 else if denom = "xaku" then 10 ^ 10 else 5

/-- What the chain makes of the packet, with the token registered under a spelling. -/
def receive (spelling : Denom) : Outcome Bank :=
  onRecvPacketWhitelistConvert channelEnvironment (transferKeeper channelEnvironment)
    (xakuRegistry spelling) escrowedBank xakuPacket

/-- A token that is registered under its own spelling keeps its value. -/
theorem xaku_preserved : ∃ next, receive "xaku" = .ok next ∧
    Preserved channelEnvironment xakuPacket xakuData ⟨"xaku", 10, [], "aku"⟩ ⟨"aku", 18, [], "aku"⟩
      escrowedBank next [1] oneXaku "aku" := by
  have accepted : (receive "xaku").isOk = true := by decide +kernel
  cases acknowledged : receive "xaku" with
  | error fault =>
    rw [acknowledged] at accepted
    cases accepted
  | ok next =>
    exact ⟨next, rfl, (conversion_preserves_iff channelEnvironment
      (transferKeeper channelEnvironment) (xakuRegistry "xaku") escrowedBank next xakuPacket xakuData
      ⟨"xaku", 10, [], "aku"⟩ ⟨"aku", 18, [], "aku"⟩ [1] oneXaku xakuPacket_read
      (by decide +kernel) (by decide +kernel) (by decide +kernel) acknowledged (by decide +kernel)
      (by decide +kernel) (by decide +kernel) "aku").mpr
        (.inr ⟨by decide +kernel, rfl, by decide +kernel⟩)⟩

/-- With XAKU in the registry the receiver keeps the xaku and loses an XAKU. -/
theorem other_spelling_burned :
    (receive "XAKU").toOption.map (fun next => ["xaku", "XAKU", "aku"].map
        (next.ledger.balance [1])) = some [1, 4, 10 ^ 8] ∧
      ["xaku", "XAKU", "aku"].map (escrowedBank.ledger.balance [1]) = [0, 5, 0] := by
  decide +kernel

end Sample

end Akhira.Verif.IbcTransfer
