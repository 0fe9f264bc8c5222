import Akhira.Verif.BridgeMint

/-!
# The ids of deposits

The id of a claim is a decimal, a decimal and the sender's text, joined without a separator.
The sender's text can be told from the decimals before it, since it has forty digits with or
without a mark that no decimal has. Two things remain open: one address has many texts, and the
boundary between the two decimals is lost.
-/
namespace Akhira.Verif.EthBridge

open Akhira.Base Akhira.Sdk Akhira.EthBridge

/-- Two claims are about one deposit. -/
def SameDeposit (left right : EthBridgeClaim) : Prop :=
  left.ethereumChainId = right.ethereumChainId ∧ left.nonce = right.nonce ∧
    hexToAddress left.ethereumSender = hexToAddress right.ethereumSender

/-- The chain id of one claim continues the other's with the first digits of the other's nonce. -/
def Resplits (left right : EthBridgeClaim) : Prop :=
  ∃ digits, digits ≠ "" ∧
    intText left.ethereumChainId.toInt = intText right.ethereumChainId.toInt ++ digits ∧
    intText right.nonce.toInt = digits ++ intText left.nonce.toInt

/-- The sender of a deposit is spelled in one way, and no decimal boundary moves. -/
def Unambiguous (left right : EthBridgeClaim) : Prop :=
  (SameDeposit left right → left.ethereumSender = right.ethereumSender) ∧
    (left.ethereumSender = right.ethereumSender →
      ¬ Resplits left right ∧ ¬ Resplits right left)

/-- A hex address is forty digits, bare or after a mark. -/
theorem isHexAddress_shape {text : String} (valid : isHexAddress text = true) :
    text.toList.length = 40 ∨ text.toList.length = 42 ∧
      ∃ mark digits, mark.isDigit = false ∧ mark ≠ '-' ∧ text.toList = '0' :: mark :: digits := by
  unfold isHexAddress at valid
  rw [Bool.and_eq_true, decide_eq_true_eq] at valid
  have length := valid.1
  unfold strip0x at length
  split at length
  · next digits shape =>
    rw [shape]
    exact .inr ⟨by rw [List.length_cons, List.length_cons, length], 'x', digits, by decide,
      by decide, rfl⟩
  · next digits shape =>
    rw [shape]
    exact .inr ⟨by rw [List.length_cons, List.length_cons, length], 'X', digits, by decide,
      by decide, rfl⟩
  · exact .inl length

/-- A mark is in no decimal. -/
theorem mark_not_mem {mark : Char} (notDigit : mark.isDigit = false) (notSign : mark ≠ '-')
    (chain nonce : Int) : mark ∉ (intText chain ++ intText nonce).toList := by
  intro listed
  rw [String.toList_append, List.mem_append] at listed
  have either : mark = '-' ∨ mark.isDigit = true := by
    rcases listed with first | second
    · exact mem_intText first
    · exact mem_intText second
  rcases either with sign | digit
  · exact notSign sign
  · rw [digit] at notDigit
    cases notDigit

/-- Where a marked and a bare sender follow equal texts, the mark would stand in a decimal. -/
theorem lengths_agree {left right : List Char} {leftSender rightSender : String}
    (same : left ++ leftSender.toList = right ++ rightSender.toList)
    (leftValid : isHexAddress leftSender = true) (rightValid : isHexAddress rightSender = true)
    (leftClean : ∀ mark : Char, mark.isDigit = false → mark ≠ '-' → mark ∉ left)
    (rightClean : ∀ mark : Char, mark.isDigit = false → mark ≠ '-' → mark ∉ right) :
    leftSender.toList.length = rightSender.toList.length := by
  -- the shorter sender starts after the mark of the longer one
  have clash : ∀ {before after bare marked : List Char}, before ++ bare = after ++ marked →
      bare.length = 40 → marked.length = 42 →
      (∀ mark : Char, mark.isDigit = false → mark ≠ '-' → mark ∉ before) →
      ¬ ∃ mark digits, mark.isDigit = false ∧ mark ≠ '-' ∧ marked = '0' :: mark :: digits := by
    rintro before after bare marked joined bareLength markedLength clean
      ⟨mark, digits, notDigit, notSign, rfl⟩
    have split : before ++ bare = (after ++ ['0', mark]) ++ digits := by
      rw [joined, List.append_assoc]
      rfl
    have digitsLength : bare.length = digits.length := by
      rw [List.length_cons, List.length_cons] at markedLength
      omega
    obtain ⟨ends, -⟩ := List.append_inj' split digitsLength
    refine clean mark notDigit notSign ?_
    rw [ends]
    simp
  rcases isHexAddress_shape leftValid with leftBare | ⟨leftLong, leftMarked⟩ <;>
    rcases isHexAddress_shape rightValid with rightBare | ⟨rightLong, rightMarked⟩
  · rw [leftBare, rightBare]
  · exact absurd rightMarked (clash same leftBare rightLong leftClean)
  · exact absurd leftMarked (clash same.symm rightBare leftLong rightClean)
  · rw [leftLong, rightLong]

variable {left right : EthBridgeClaim}

/-- Equal ids are equal senders after equal decimals. -/
theorem oracleID_eq_iff (leftValid : isHexAddress left.ethereumSender = true)
    (rightValid : isHexAddress right.ethereumSender = true) :
    left.oracleID = right.oracleID ↔ left.ethereumSender = right.ethereumSender ∧
      intText left.ethereumChainId.toInt ++ intText left.nonce.toInt =
        intText right.ethereumChainId.toInt ++ intText right.nonce.toInt := by
  unfold EthBridgeClaim.oracleID
  constructor
  · intro same
    have joined : (intText left.ethereumChainId.toInt ++ intText left.nonce.toInt).toList ++
          left.ethereumSender.toList =
        (intText right.ethereumChainId.toInt ++ intText right.nonce.toInt).toList ++
          right.ethereumSender.toList := by
      rw [← String.toList_append, ← String.toList_append, same]
    have lengths := lengths_agree joined leftValid rightValid
      (fun mark notDigit notSign => mark_not_mem notDigit notSign _ _)
      (fun mark notDigit notSign => mark_not_mem notDigit notSign _ _)
    obtain ⟨decimals, senders⟩ := List.append_inj' joined lengths
    exact ⟨String.toList_inj.mp senders, String.toList_inj.mp decimals⟩
  · rintro ⟨senders, decimals⟩
    rw [decimals, senders]

/-- Equal joined decimals are equal decimals, or a boundary has moved. -/
theorem decimals_cases
    (same : intText left.ethereumChainId.toInt ++ intText left.nonce.toInt =
      intText right.ethereumChainId.toInt ++ intText right.nonce.toInt) :
    (left.ethereumChainId = right.ethereumChainId ∧ left.nonce = right.nonce) ∨
      Resplits left right ∨ Resplits right left := by
  have aligned : ∀ {first second : EthBridgeClaim} {digits : List Char},
      (intText first.ethereumChainId.toInt).toList =
        (intText second.ethereumChainId.toInt).toList ++ digits →
      (intText second.nonce.toInt).toList = digits ++ (intText first.nonce.toInt).toList →
      (first.ethereumChainId = second.ethereumChainId ∧ first.nonce = second.nonce) ∨
        Resplits first second := by
    intro first second digits chains nonces
    by_cases empty : digits = []
    · rw [empty, List.append_nil] at chains
      rw [empty, List.nil_append] at nonces
      have chain := intText_injective (String.toList_inj.mp chains)
      have nonce := intText_injective (String.toList_inj.mp nonces)
      exact .inl ⟨Int64.toInt_inj.mp chain, Int64.toInt_inj.mp nonce.symm⟩
    · refine .inr ⟨String.ofList digits, ?_, ?_, ?_⟩
      · intro none
        have listed := congrArg String.toList none
        rw [String.toList_ofList] at listed
        exact empty listed
      · rw [← String.toList_inj, String.toList_append, String.toList_ofList]
        exact chains
      · rw [← String.toList_inj, String.toList_append, String.toList_ofList]
        exact nonces
  have lists := congrArg String.toList same
  rw [String.toList_append, String.toList_append, List.append_eq_append_iff] at lists
  rcases lists with ⟨digits, chains, nonces⟩ | ⟨digits, chains, nonces⟩
  · rcases aligned chains nonces with equal | moved
    · exact .inl ⟨equal.1.symm, equal.2.symm⟩
    · exact .inr (.inr moved)
  · rcases aligned chains nonces with equal | moved
    · exact .inl equal
    · exact .inr (.inl moved)

/-- Two claims that split one text differently have the same digits in it. -/
theorem decimals_of_resplits (moved : Resplits left right) :
    intText left.ethereumChainId.toInt ++ intText left.nonce.toInt =
      intText right.ethereumChainId.toInt ++ intText right.nonce.toInt := by
  obtain ⟨digits, -, chains, nonces⟩ := moved
  rw [chains, nonces, String.append_assoc]

/-- A different split is a different chain id. -/
theorem Resplits.chains_ne (moved : Resplits left right) :
    left.ethereumChainId ≠ right.ethereumChainId := by
  obtain ⟨digits, nonempty, chains, -⟩ := moved
  intro same
  rw [same] at chains
  have lists := congrArg String.toList chains
  rw [String.toList_append, List.self_eq_append_right] at lists
  exact nonempty (String.toList_inj.mp lists)

/-- The sender of a claim that passes is an address. -/
theorem sender_valid (valid : left.validateBasic = .ok ()) :
    isHexAddress left.ethereumSender = true := by
  simp only [EthBridgeClaim.validateBasic, Result.bind_ok, Outcome.require_ok] at valid
  obtain ⟨-, -, -, -, -, -, -, sender, -⟩ := valid
  exact sender

/-- The oracle claim has the id of the claim it is made from. -/
theorem made_id {chain : Chain} {contents : ContentCodec} {claim : Oracle.Claim}
    (made : createOracleClaimFromEthClaim chain contents left = .ok claim) :
    claim.id = left.oracleID := by
  simp only [createOracleClaimFromEthClaim, Result.bind_ok, Result.pure_ok] at made
  obtain ⟨receiver, -, rfl⟩ := made
  rfl

/-- Two accepted claims share an id exactly when they are about one deposit, if and only if the
texts of the two are unambiguous. -/
theorem same_id_iff_same_deposit (chain : Chain) (contents : ContentCodec)
    (left right : EthBridgeClaim) (leftClaim rightClaim : Oracle.Claim)
    (leftValid : left.validateBasic = .ok ()) (rightValid : right.validateBasic = .ok ())
    (leftMade : createOracleClaimFromEthClaim chain contents left = .ok leftClaim)
    (rightMade : createOracleClaimFromEthClaim chain contents right = .ok rightClaim) :
    (leftClaim.id = rightClaim.id ↔ SameDeposit left right) ↔ Unambiguous left right := by
  rw [made_id leftMade, made_id rightMade,
    oracleID_eq_iff (sender_valid leftValid) (sender_valid rightValid)]
  constructor
  · intro exact_ids
    refine ⟨fun deposit => (exact_ids.mpr deposit).1, fun senders => ⟨fun moved => ?_, fun moved => ?_⟩⟩
    · have deposit := exact_ids.mp ⟨senders, decimals_of_resplits moved⟩
      exact moved.chains_ne deposit.1
    · have deposit := exact_ids.mp ⟨senders, (decimals_of_resplits moved).symm⟩
      exact moved.chains_ne deposit.1.symm
  · intro unambiguous
    constructor
    · rintro ⟨senders, decimals⟩
      obtain ⟨noLeft, noRight⟩ := unambiguous.2 senders
      rcases decimals_cases decimals with ⟨chains, nonces⟩ | moved | moved
      · exact ⟨chains, nonces, by rw [senders]⟩
      · exact absurd moved noLeft
      · exact absurd moved noRight
    · intro deposit
      refine ⟨unambiguous.1 deposit, ?_⟩
      rw [deposit.1, deposit.2.1]

/-- Two reports of one deposit have one id, as they should. -/
theorem ether_reports_agree :
    let claimBy := fun byte => (⟨"170x52908400098527886E0F7030069857D2E4169EE7",
      Oracle.operatorText (Oracle.operator byte), etherText⟩ : Oracle.Claim)
    ((claimBy 1).id = (claimBy 2).id ↔ SameDeposit (etherClaimBy 1) (etherClaimBy 2)) ↔
      Unambiguous (etherClaimBy 1) (etherClaimBy 2) :=
  same_id_iff_same_deposit bridgeChain etherContents (etherClaimBy 1) (etherClaimBy 2) _ _
    (by decide +kernel) (by decide +kernel) (by decide +kernel) (by decide +kernel)

/-- Whether two claims are about one deposit is decided by their fields. -/
instance (left right : EthBridgeClaim) : Decidable (SameDeposit left right) :=
  inferInstanceAs (Decidable (_ ∧ _))

/-- Nonce 11 on chain 1 and nonce 1 on chain 11 share an id; a sender in small letters gives the
same deposit another one. -/
theorem ids_clash_and_split :
    let one := { etherClaimBy 1 with ethereumChainId := 1, nonce := 11 }
    let eleven := { etherClaimBy 1 with ethereumChainId := 11, nonce := 1 }
    let lower := { etherClaimBy 1 with
      ethereumSender := "0x52908400098527886e0f7030069857d2e4169ee7" }
    let idOf := fun claim =>
      (createOracleClaimFromEthClaim bridgeChain etherContents claim).toOption.map Oracle.Claim.id
    (one.validateBasic = .ok () ∧ eleven.validateBasic = .ok () ∧ lower.validateBasic = .ok ()) ∧
      (idOf one = some "1110x52908400098527886E0F7030069857D2E4169EE7" ∧
        idOf eleven = idOf one ∧ ¬ SameDeposit one eleven) ∧
      SameDeposit (etherClaimBy 1) lower ∧ idOf (etherClaimBy 1) ≠ idOf lower := by
  decide +kernel

end Akhira.Verif.EthBridge
