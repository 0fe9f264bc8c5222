import Akhira.EthBridge.ContentJson
import Akhira.Verif.Genesis
import Akhira.Verif.Withdrawals

/-!
# Contents tell reports apart

A written content is read back as the five values it was written from, with U+FFFD in the symbol
where a byte begins no character. So contents pool the votes of equal reports, and of no others,
as long as symbols are UTF-8.
-/
namespace Akhira.Verif.EthBridge

open Akhira.Base Akhira.Sdk Akhira.Contracts Akhira.EthBridge

section Addresses

variable {keccak256 : Bytes → Word}

/-- The digits of bytes. -/
theorem mem_hexEncode {bytes : Bytes} {digit : Char} (listed : digit ∈ hexEncode bytes) :
    ∃ value < 16, digit = hexDigit value := by
  obtain ⟨byte, -, among⟩ := List.mem_flatMap.mp listed
  have small := byte.toNat_lt
  simp only [List.mem_cons, List.not_mem_nil, or_false] at among
  rcases among with rfl | rfl
  · exact ⟨byte.toNat / 16, by omega, rfl⟩
  · exact ⟨byte.toNat % 16, by omega, rfl⟩

/-- A digit in either case stands for its value and is written in JSON as it is. -/
theorem digit_either_case {value : Nat} (small : value < 16) (digit : Char)
    (either : digit = hexDigit value ∨ digit = (hexDigit value).toUpper) :
    hexValue digit = some value ∧ Json.escape (some digit) = [digit] := by
  have all : ∀ value < 16, (hexValue (hexDigit value) = some value ∧
      Json.escape (some (hexDigit value)) = [hexDigit value]) ∧
      hexValue (hexDigit value).toUpper = some value ∧
      Json.escape (some (hexDigit value).toUpper) = [(hexDigit value).toUpper] := by
    decide +kernel
  rcases either with rfl | rfl
  · exact (all value small).1
  · exact (all value small).2

/-- Digits of bytes, each in either case. -/
def Cased (digits : List Char) (bytes : Bytes) : Prop :=
  List.Forall₂ (fun digit lower => digit = lower ∨ digit = lower.toUpper) digits (hexEncode bytes)

/-- Changing each item in a related way gives a related list. -/
theorem forall₂_mapIdx {α : Type} {relation : α → α → Prop} {change : Nat → α → α}
    (related : ∀ index item, relation (change index item) item) (items : List α) :
    List.Forall₂ relation (items.mapIdx change) items := by
  induction items generalizing change with
  | nil => exact .nil
  | cons item items ih =>
    rw [List.mapIdx_cons]
    exact .cons (related 0 item) (ih fun index item => related (index + 1) item)

/-- A digit of either case is read, and is written without an escape. -/
theorem Cased.digit {digits : List Char} {bytes : Bytes} (cased : Cased digits bytes)
    {digit : Char} (listed : digit ∈ digits) :
    (hexValue digit).isSome ∧ Json.escape (some digit) = [digit] := by
  obtain ⟨index, bound, rfl⟩ := List.getElem_of_mem listed
  have bounds : index < (hexEncode bytes).length := by rw [← cased.length_eq]; exact bound
  obtain ⟨value, small, written⟩ := mem_hexEncode (List.getElem_mem bounds)
  have either := cased.get bound bounds
  simp only [List.get_eq_getElem] at either
  rw [written] at either
  obtain ⟨reads, plain⟩ := digit_either_case small _ either
  exact ⟨by rw [reads]; rfl, plain⟩

/-- Digits in any case are read as the bytes. -/
theorem Cased.decodeHex {digits : List Char} {bytes : Bytes} (cased : Cased digits bytes) :
    decodeHex digits = bytes := by
  induction bytes generalizing digits with
  | nil =>
    cases cased
    rfl
  | cons byte rest ih =>
    rw [Cased, hexEncode_cons] at cased
    obtain ⟨high, after, upper, tail, rfl⟩ := List.forall₂_cons_right_iff.mp cased
    obtain ⟨low, digits, lower, others, rfl⟩ := List.forall₂_cons_right_iff.mp tail
    have small := byte.toNat_lt
    have highRead := (digit_either_case (by omega) high upper).1
    have lowRead := (digit_either_case (by omega) low lower).1
    rw [EthBridge.decodeHex, highRead, lowRead, ih others]
    have whole : 16 * (byte.toNat / 16) + byte.toNat % 16 = byte.toNat := by omega
    simp only [whole, UInt8.ofNat_toNat]

/-- Two digits are written for each byte. -/
theorem length_hexEncode (bytes : Bytes) : (hexEncode bytes).length = 2 * bytes.length := by
  induction bytes with
  | nil => rfl
  | cons byte rest ih =>
    rw [hexEncode_cons, List.length_cons, List.length_cons, List.length_cons, ih]
    omega

/-- The text of an address has its forty digits, in some case. -/
theorem addressText_cased (address : Address) :
    ∃ digits, addressText keccak256 address = '0' :: 'x' :: digits ∧
      Cased digits (bigEndian 20 address.toNat) := by
  refine ⟨_, rfl, forall₂_mapIdx (fun index digit => ?_) _⟩
  split_ifs
  · exact .inr rfl
  · exact .inl rfl

/-- An address is read back from its text. -/
theorem unmarshalFixedJSON_addressText (address : Address) :
    unmarshalFixedJSON (addressText keccak256 address) = some address := by
  obtain ⟨digits, written, cased⟩ := @addressText_cased keccak256 address
  have count : digits.length = 40 := by
    rw [cased.length_eq, length_hexEncode, length_bigEndian]
  have hex : digits.all (fun digit => (hexValue digit).isSome) = true :=
    List.all_eq_true.mpr fun digit listed => (cased.digit listed).1
  rw [written, unmarshalFixedJSON, if_pos ⟨rfl, .inl rfl, count, hex⟩, cased.decodeHex,
    fromBytes_bigEndian, Option.some.injEq]
  have fits : address.toNat < 256 ^ 20 := address.isLt
  rw [Nat.mod_eq_of_lt fits, BitVec.ofNat_toNat, BitVec.setWidth_eq]

/-- The text of an address has nothing to escape. -/
theorem escape_addressText (address : Address) :
    ((addressText keccak256 address).map some).flatMap Json.escape =
      addressText keccak256 address := by
  obtain ⟨digits, written, cased⟩ := @addressText_cased keccak256 address
  have plain : ∀ chars : List Char, (∀ char ∈ chars, Json.escape (some char) = [char]) →
      (chars.map some).flatMap Json.escape = chars := by
    intro chars each
    induction chars with
    | nil => rfl
    | cons char chars ih =>
      rw [List.map_cons, List.flatMap_cons, each char List.mem_cons_self,
        ih fun other listed => each other (List.mem_cons_of_mem _ listed)]
      rfl
  rw [written]
  refine plain _ fun char listed => ?_
  rcases List.mem_cons.mp listed with rfl | listed
  · rfl
  · rcases List.mem_cons.mp listed with rfl | listed
    · rfl
    · exact (cased.digit listed).2

end Addresses

section Contents

variable {env : JsonEnv} {receiver : AccAddress} {amount : SInt} {symbol : List (Option Char)}
  {token : Address} {claimType : Int32}

/-- An amount is read back from its value. -/
theorem ofText_val (amount : SInt) : SInt.ofText amount.val = some amount := by
  rw [SInt.ofText, dif_pos amount.bounded]

/-- A claim type keeps its number. -/
theorem number_ofNumber (value : Int32) : (ClaimType.ofNumber value).number = value := by
  unfold ClaimType.ofNumber
  split_ifs with unspecified burn lock
  · exact unspecified.symm
  · exact burn.symm
  · exact lock.symm
  · rfl

/-- A claim type is told by its number. -/
theorem ofNumber_number (kind : EthBridge.ClaimType) : ClaimType.ofNumber kind.number = kind := by
  cases kind with
  | other value unnamed =>
    rw [ClaimType.number, ClaimType.ofNumber, dif_neg unnamed.1, dif_neg unnamed.2.1,
      dif_neg unnamed.2.2]
  | _ => rfl

/-- The receiver that is read from a written one. -/
def receiverRead (chain : Chain) (receiver : AccAddress) : Option AccAddress :=
  if (chain.textOf receiver).toList = [] then some []
  else chain.accAddressFromBech32 (chain.textOf receiver)

/-- The text of a readable account is not empty. -/
theorem textOf_ne_empty (reads : ReadsTexts env.chain) (readable : Readable env.chain receiver) :
    (env.chain.textOf receiver).toList ≠ [] := by
  intro empty
  have blank := reads.not_blank readable
  rw [String.toList_eq_nil_iff.mp empty] at blank
  cases blank

/-- Text that is all characters has nothing to replace. -/
theorem map_getD_some (chars : List Char) :
    (chars.map some).map (Option.getD · Json.replacement) = chars := by
  rw [List.map_map]
  exact List.map_id _

/-- A written text is read as the characters it is written from. -/
theorem jsonCharacters_ofList (chars : List Char) : jsonCharacters (String.ofList chars) = chars := by
  have bytes : (String.ofList chars).toUTF8.data.toList = Utf8.encode chars :=
    List.toList_data_toByteArray
  rw [jsonCharacters, bytes, Utf8.characters_encode, map_getD_some]

/-- A field is found by its tag. -/
theorem contentField_tag (field : ContentField) : contentField field.tag = some field := by
  cases field <;> decide +kernel

/-- A written content is read back if its receiver is, with U+FFFD for what is no character of the
symbol. -/
theorem unmarshal_written :
    unmarshalContent env (contentText env receiver amount symbol token claimType) =
      (receiverRead env.chain receiver).map fun cosmosReceiver =>
        ⟨cosmosReceiver, amount, String.ofList (symbol.map (Option.getD · Json.replacement)), token,
          .ofNumber claimType⟩ := by
  have range : -2 ^ 31 ≤ claimType.toInt ∧ claimType.toInt < 2 ^ 31 :=
    ⟨claimType.le_toInt, claimType.toInt_lt⟩
  rw [unmarshalContent, contentText, jsonCharacters_ofList,
    Json.readObject_object (List.cons_ne_nil _ _)]
  simp only [Option.bind_eq_bind, Option.bind_some, List.map_cons, List.map_nil, Json.Datum.read,
    map_getD_some, escape_addressText, List.foldlM_cons, List.foldlM_nil, setField,
    contentField_tag, String.ofList_toList]
  unfold receiverRead
  cases (if (env.chain.textOf receiver).toList = [] then some []
    else env.chain.accAddressFromBech32 (env.chain.textOf receiver)) with
  | none => rfl
  | some cosmosReceiver =>
    simp only [Option.map_some, Option.bind_some, env.unmarshalText_text, ofText_val,
      unmarshalFixedJSON_addressText, if_pos range, Int32.ofInt_toInt]
    rfl

/-- The content that is written is read back, with its symbol in whole characters. -/
theorem unmarshal_contentText (reads : ReadsTexts env.chain)
    (readable : Readable env.chain receiver) :
    unmarshalContent env (contentText env receiver amount symbol token claimType) =
      some ⟨receiver, amount, String.ofList (symbol.map (Option.getD · Json.replacement)), token,
        .ofNumber claimType⟩ := by
  have read : receiverRead env.chain receiver = some receiver := by
    rw [receiverRead, if_neg (textOf_ne_empty reads readable)]
    exact readable
  rw [unmarshal_written, read]
  rfl

end Contents

section Law

/-- A content that is read from a written one is the written one. -/
def ReadsBack (contents : ContentCodec) : Prop :=
  ∀ content read, contents.unmarshal (contents.marshal content) = some read → read = content

/-- A chain writes an address as a text that no other address has. -/
def WritesOwn (chain : Chain) : Prop :=
  ∀ address, address ≠ [] → chain.accAddressText address ≠ "" ∧
    ∀ other, chain.accAddressFromBech32 (chain.accAddressText address) = some other →
      other = address

/-- A chain that writes own texts reads a receiver back as itself. -/
theorem WritesOwn.receiverRead {chain : Chain} (own : WritesOwn chain)
    {receiver other : AccAddress} (read : receiverRead chain receiver = some other) :
    other = receiver := by
  unfold EthBridge.receiverRead Chain.textOf at read
  by_cases empty : receiver = []
  · rw [if_pos empty, if_pos String.toList_empty, Option.some.injEq] at read
    rw [empty, ← read]
  · obtain ⟨written, unique⟩ := own receiver empty
    rw [if_neg empty, if_neg fun blank => written (String.toList_eq_nil_iff.mp blank)] at read
    exact unique other read

/-- The JSON of a content is read as nothing but this content. -/
theorem jsonContents_readsBack (env : JsonEnv) (own : WritesOwn env.chain) :
    ReadsBack (jsonContents env) := by
  intro content read found
  change unmarshalContent env (contentText env _ _ _ _ _) = some read at found
  rw [unmarshal_written, Option.map_eq_some_iff] at found
  obtain ⟨receiver, kept, rfl⟩ := found
  rw [own.receiverRead kept, map_getD_some, String.ofList_toList, ofNumber_number]

end Law

/-- The five values that a claim reports. -/
def WireClaim.report (chain : Chain) (claim : WireClaim) :
    Option AccAddress × SInt × Bytes × Address × Int32 :=
  (chain.accAddressFromBech32 claim.cosmosReceiver, claim.amount, claim.symbol,
    hexToAddress claim.tokenContractAddress, claim.claimType)

/-- The five values of a content. -/
def OracleClaimContent.report (content : OracleClaimContent) :
    Option AccAddress × SInt × Bytes × Address × Int32 :=
  (some content.cosmosReceiver, content.amount, Utf8.encode content.symbol.toList,
    content.tokenContractAddress, content.claimType.number)

/-- A content is read back as exactly what the claim reports. -/
def Returns (env : JsonEnv) (text : String) (claim : WireClaim) : Prop :=
  ∃ content, createOracleClaimFromOracleString (jsonContents env) text = .ok content ∧
    OracleClaimContent.report content = WireClaim.report env.chain claim

section Votes

variable {env : JsonEnv} {claim left right : WireClaim} {created first second : Oracle.Claim}

/-- A claim that is created has the content that is written for its receiver. -/
theorem createOracleClaim_ok (make : claim.createOracleClaim env = .ok created) :
    ∃ receiver, env.chain.accAddressFromBech32 claim.cosmosReceiver = some receiver ∧
      created.content = contentText env receiver claim.amount (Utf8.characters claim.symbol)
        (hexToAddress claim.tokenContractAddress) claim.claimType := by
  simp only [WireClaim.createOracleClaim, Chain.decode, Result.bind_ok, Outcome.present_ok,
    Result.pure_ok] at make
  obtain ⟨receiver, read, rfl⟩ := make
  exact ⟨receiver, read, rfl⟩

/-- The content of a claim is read as its report with the symbol in characters. -/
theorem read_created (reads : ReadsTexts env.chain)
    (make : claim.createOracleClaim env = .ok created) :
    ∃ content, createOracleClaimFromOracleString (jsonContents env) created.content =
        .ok content ∧
      OracleClaimContent.report content =
        WireClaim.report env.chain { claim with
          symbol := Utf8.encode
            ((Utf8.characters claim.symbol).map (Option.getD · Json.replacement)) } := by
  obtain ⟨receiver, read, written⟩ := createOracleClaim_ok make
  have back := @unmarshal_contentText env receiver claim.amount (Utf8.characters claim.symbol)
    (hexToAddress claim.tokenContractAddress) claim.claimType reads (reads.readable read)
  refine ⟨_, Outcome.present_ok.mpr (by rw [written]; exact back), ?_⟩
  simp only [OracleClaimContent.report, WireClaim.report, String.toList_ofList, number_ofNumber,
    read]

/-- A content returns what the claim reports exactly when the symbol is UTF-8. -/
theorem returns_iff (reads : ReadsTexts env.chain)
    (make : claim.createOracleClaim env = .ok created) :
    Returns env created.content claim ↔ Utf8.valid claim.symbol = true := by
  obtain ⟨content, back, report⟩ := read_created reads make
  constructor
  · rintro ⟨other, again, same⟩
    have unique : other = content := by
      rw [back] at again
      exact (Except.ok.inj again).symm
    rw [unique, report] at same
    simp only [WireClaim.report, Prod.mk.injEq] at same
    exact (Utf8.encode_characters_iff Json.replacement).mp same.2.2.1
  · intro whole
    refine ⟨content, back, ?_⟩
    rw [report, Utf8.encode_characters whole]

/-- Equal reports have equal contents. -/
theorem content_of_report (leftMake : left.createOracleClaim env = .ok first)
    (rightMake : right.createOracleClaim env = .ok second)
    (same : WireClaim.report env.chain left = WireClaim.report env.chain right) :
    first.content = second.content := by
  obtain ⟨leftReceiver, leftRead, leftWritten⟩ := createOracleClaim_ok leftMake
  obtain ⟨rightReceiver, rightRead, rightWritten⟩ := createOracleClaim_ok rightMake
  simp only [WireClaim.report, Prod.mk.injEq, leftRead, rightRead, Option.some.injEq] at same
  obtain ⟨receivers, amounts, symbols, tokens, types⟩ := same
  rw [leftWritten, rightWritten, receivers, amounts, symbols, tokens, types]

/-- Contents pool the votes of equal reports only, and return them, exactly for symbols that are
UTF-8. -/
theorem contents_pool_iff (reads : ReadsTexts env.chain) (left right : WireClaim)
    (leftMake : left.createOracleClaim env = .ok first)
    (rightMake : right.createOracleClaim env = .ok second) :
    ((first.content = second.content ↔
        WireClaim.report env.chain left = WireClaim.report env.chain right) ∧
      Returns env first.content left ∧ Returns env second.content right) ↔
    Utf8.valid left.symbol = true ∧ Utf8.valid right.symbol = true := by
  rw [returns_iff reads leftMake, returns_iff reads rightMake]
  refine ⟨fun holds => holds.2, fun whole => ⟨⟨fun same => ?_, ?_⟩, whole⟩⟩
  · -- one text is read as one content, and this is what both report
    obtain ⟨leftContent, leftRead, leftReport⟩ := read_created reads leftMake
    obtain ⟨rightContent, rightRead, rightReport⟩ := read_created reads rightMake
    rw [Utf8.encode_characters whole.1] at leftReport
    rw [Utf8.encode_characters whole.2] at rightReport
    have read : leftContent = rightContent := by
      rw [same, rightRead] at leftRead
      exact (Except.ok.inj leftRead).symm
    rw [← leftReport, ← rightReport, read]
  · exact content_of_report leftMake rightMake

/-- On claims whose symbols are UTF-8 the JSON is that of the texts. -/
theorem createOracleClaim_text (claim : EthBridgeClaim) (wire : WireClaim)
    (symbol : wire.symbol = Utf8.encode claim.symbol.toList) (shown : wire.shown = claim) :
    wire.createOracleClaim env =
      createOracleClaimFromEthClaim env.chain (jsonContents env) claim := by
  have number : claim.claimType.number = wire.claimType := by
    rw [← shown]
    exact number_ofNumber _
  rw [WireClaim.createOracleClaim, symbol, Utf8.characters_encode, ← number, shown]
  subst shown
  rfl

end Votes

section Sample

/-- The hashes of the digits of five addresses. -/
def addressHash (digits : Bytes) : Word :=
  if digits = ascii "0000000000000000000000000000000000000000" then
    0xccc527fe1f9391bff444994ddca404bed1dc008a066ff7f1b243e115cab70720
  else if digits = ascii "52908400098527886e0f7030069857d2e4169ee7" then
    0x297c1ba3882c3eb45bc8970bdb323ffa98749993835ebfa9b4150ee83081da79
  else if digits = ascii "6b175474e89094c44da98b954eedeac495271d0f" then
    0x5ae605e1ac2692eab9657482fb517fff918406aac473ef4d5337c3889203a2a8
  else if digits = ascii "8617e340b3d01fa5f11f306f4090fd50e238070d" then
    0x81d5d379feb02bc5fa79c34dd77aaad7ab834c6cba623d7697499fbfea87e74a
  else if digits = ascii "cccccccccccccccccccccccccccccccccccccccc" then
    0xc18a7560a9d83c8bebc3a7835c39c92c7734607a362b91ed2a3129fe89cd4392
  else 0

/-- The JSON of the contents on a chain, with decimals as they are written. -/
def jsonOf (chain : Chain) : JsonEnv where
  chain := chain
  keccak256 := addressHash
  unmarshalText := readInt
  unmarshalText_text := readInt_text

/-- The sample chain writes the own text of the address it knows. -/
theorem chainReading_writesOwn {known : String} (written : known ≠ "") (other : "ak1" ≠ known) :
    WritesOwn (chainReading known) := by
  intro address _
  change (if address = aliceAddress then known else "ak1") ≠ "" ∧
    ∀ read, (if (if address = aliceAddress then known else "ak1") = known then
      some aliceAddress else none) = some read → read = address
  by_cases own : address = aliceAddress
  · rw [if_pos own, if_pos rfl, own]
    exact ⟨written, fun read found => (Option.some.inj found).symm⟩
  · rw [if_neg own, if_neg other]
    exact ⟨by decide, fun read found => by cases found⟩

/-- The bytes of contents on the sample chain. -/
def aliceJson : JsonEnv := jsonOf Clp.aliceEnvironment.toChain

/-- A vote for a payout to a receiver. -/
def voteFor (symbol : Bytes) (receiver : String) : WireClaim where
  ethereumChainId := 1
  bridgeContractAddress := "0x52908400098527886E0F7030069857D2E4169EE7"
  nonce := 7
  symbol := symbol
  tokenContractAddress := "0x8617E340B3D01FA5F11F306F4090FD50E238070D"
  ethereumSender := "0x52908400098527886E0F7030069857D2E4169EE7"
  cosmosReceiver := receiver
  validatorAddress := "val"
  amount := fiveRowan
  claimType := 2

/-- A vote of the sample is created with the content that is written for the account. -/
theorem voteFor_created (symbol : Bytes) {receiver : String}
    (read : Clp.aliceEnvironment.accAddressFromBech32 receiver = some Clp.aliceAddress) :
    (voteFor symbol receiver).createOracleClaim aliceJson =
      .ok ⟨(voteFor symbol receiver).shown.oracleID, "val",
        contentText aliceJson Clp.aliceAddress fiveRowan (Utf8.characters symbol)
          (hexToAddress "0x8617E340B3D01FA5F11F306F4090FD50E238070D") 2⟩ := by
  have decoded : aliceJson.chain.decode receiver = .ok Clp.aliceAddress :=
    Outcome.present_ok.mpr read
  exact congrArg (fun account => account >>= _) decoded

/-- Two spellings of a receiver give one content. -/
theorem spellings_pool :
    ∃ first second,
      (voteFor (ascii "dai") Clp.aliceText).createOracleClaim aliceJson = .ok first ∧
      (voteFor (ascii "dai") Clp.aliceText.toUpper).createOracleClaim aliceJson = .ok second ∧
      (first.content = second.content ↔
        WireClaim.report aliceJson.chain (voteFor (ascii "dai") Clp.aliceText) =
          WireClaim.report aliceJson.chain (voteFor (ascii "dai") Clp.aliceText.toUpper)) ∧
      Returns aliceJson first.content (voteFor (ascii "dai") Clp.aliceText) ∧
      Returns aliceJson second.content (voteFor (ascii "dai") Clp.aliceText.toUpper) :=
  have lower := @voteFor_created (ascii "dai") Clp.aliceText (by decide +kernel)
  have upper := @voteFor_created (ascii "dai") Clp.aliceText.toUpper (by decide +kernel)
  ⟨_, _, lower, upper,
    (contents_pool_iff aliceEnvironment_reads (voteFor (ascii "dai") Clp.aliceText)
      (voteFor (ascii "dai") Clp.aliceText.toUpper) lower upper).mpr ⟨by decide +kernel, by decide +kernel⟩⟩

/-- Votes for two symbols, each a byte that begins no character, have one content. -/
theorem broken_symbols_pool :
    (voteFor [0xff] Clp.aliceText).validateBasic = .ok () ∧
      (voteFor [0xfe] Clp.aliceText).validateBasic = .ok () ∧
      ∃ first second, (voteFor [0xff] Clp.aliceText).createOracleClaim aliceJson = .ok first ∧
        (voteFor [0xfe] Clp.aliceText).createOracleClaim aliceJson = .ok second ∧
        first.content = second.content ∧
        WireClaim.report aliceJson.chain (voteFor [0xff] Clp.aliceText) ≠
          WireClaim.report aliceJson.chain (voteFor [0xfe] Clp.aliceText) := by
  have read : Clp.aliceEnvironment.accAddressFromBech32 Clp.aliceText = some Clp.aliceAddress := by
    decide +kernel
  refine ⟨by decide +kernel, by decide +kernel, _, _, voteFor_created [0xff] read,
    voteFor_created [0xfe] read, ?_, by decide +kernel⟩
  have none_read : Utf8.characters [0xff] = Utf8.characters [0xfe] := by decide +kernel
  exact congrArg (fun symbol => contentText aliceJson Clp.aliceAddress fiveRowan symbol
    (hexToAddress "0x8617E340B3D01FA5F11F306F4090FD50E238070D") 2) none_read

end Sample

end Akhira.Verif.EthBridge
