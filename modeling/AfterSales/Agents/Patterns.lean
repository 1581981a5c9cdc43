import AfterSales.Application.Routing
import AfterSales.Lib.Pattern

/-! What the entry reads from the text of a message: order ids, risk flags, personal data.

    The patterns see Unicode text. Which characters are word characters and digits is a table of the
    language, so it is a parameter with the entries that are relied on. Where case is ignored, a
    class of letters has four members outside ASCII. -/

namespace AfterSales

open Pattern

/-- The letters outside ASCII that a class of Latin letters has when case is ignored: dotted capital
    I, dotless i, long s and the Kelvin sign. -/
def foldedLetters : List Nat := [0x130, 0x131, 0x17F, 0x212A]

/-- `\w` and `\d`. -/
class CharacterClasses where
  isWord : Char → Bool
  isDigit : Char → Bool
  digit_word : ∀ c, isDigit c = true → isWord c = true
  ascii_digit : ∀ c, c.toNat < 128 → isDigit c = c.isDigit
  ascii_word : ∀ c, c.toNat < 128 → isWord c = (c.isAlphanum || c = '_')
  folded : ∀ c, c.toNat ∈ foldedLetters → isWord c = true ∧ isDigit c = false
  ideograph : ∀ c, 0x4E00 ≤ c.toNat → c.toNat ≤ 0x9FA5 → isWord c = true ∧ isDigit c = false

export CharacterClasses (isWord isDigit)

/-- `[A-Z]`, when case is ignored. -/
def isLetter (c : Char) : Bool := c.isAlpha || c.toNat ∈ foldedLetters

/-- `upper`, of a character that such a class has. -/
def upperChar (c : Char) : Char :=
  if c.toNat = 0x131 then 'I' else if c.toNat = 0x17F then 'S' else c.toUpper

section Patterns

variable [CharacterClasses]

/-- `\b`. -/
def wordBoundary (prev next : Option Char) : Bool := prev.any isWord != next.any isWord

/-- `1[3-9]\d{9}`. -/
def mobileNumber : List (Char → Bool) :=
  (· = '1') :: (fun c => '3' ≤ c ∧ c ≤ '9') :: List.replicate 9 isDigit

/-- `(?<!\d)1[3-9]\d{9}(?!\d)`. -/
def mobilePattern : Pattern Char :=
  .seq (.look fun prev _ => !prev.any isDigit)
    (.seq (.each mobileNumber) (.look fun _ next => !next.any isDigit))

/-- `[A-Z0-9._%+-]`. -/
def isLocal (c : Char) : Bool := isLetter c || c.isDigit || c ∈ ['.', '_', '%', '+', '-']

/-- `[A-Z0-9.-]`. -/
def isDomain (c : Char) : Bool := isLetter c || c.isDigit || c ∈ ['.', '-']

/-- `\b[A-Z0-9._%+-]+@[A-Z0-9.-]+\.[A-Z]{2,}\b`. -/
def addressPattern : Pattern Char :=
  .seq (.look wordBoundary) (.seq (.many 1 isLocal) (.seq (.one (· = '@')) (.seq (.many 1 isDomain)
    (.seq (.one (· = '.')) (.seq (.many 2 isLetter) (.look wordBoundary))))))

/-- `_PII_PATTERNS`. -/
def piiPatterns : List (Pattern Char) := [mobilePattern, addressPattern]

/-- `[A-Z0-9-]`. -/
def isOrderIdChar (c : Char) : Bool := isLetter c || c.isDigit || c = '-'

/-- `ORD-`, when case is ignored. -/
def orderMark : List (Char → Bool) :=
  [fun c => c.toUpper = 'O', fun c => c.toUpper = 'R', fun c => c.toUpper = 'D', (· = '-')]

/-- `_ORDER_ID_PATTERN`: `\bORD-[A-Z0-9-]+\b`. -/
def orderIdPattern : Pattern Char :=
  .seq (.look wordBoundary) (.seq (.each orderMark)
    (.seq (.many 1 isOrderIdChar) (.look wordBoundary)))

/-! ### Order ids and risk flags -/

/-- `_literal_order_ids`. -/
def literalOrderIds (content : String) : List String :=
  ((matches? (scan orderIdPattern content.toList)).map
    fun w => String.ofList (w.map upperChar)).eraseDups.take 16

/-- `_OVERRIDE_PATTERNS`. -/
def overridePatterns : List String :=
  ["忽略规则", "忽略之前", "忽略系统", "绕过指令", "system prompt", "developer message",
    "ignore previous", "ignore all"]

/-- `_PROHIBITED_ACTION_PATTERNS`. -/
def prohibitedActionPatterns : List String :=
  ["要退款", "给我退款", "帮我退款", "并退款", "申请退款", "立即退款", "马上退款", "要赔偿", "给我赔偿",
    "帮我赔偿", "申请赔偿", "要退货", "帮我退货", "申请退货", "要换货", "帮我换货", "申请换货", "refund me",
    "compensate me"]

/-- `_KNOWN_RISK_FLAGS`. -/
def knownRiskFlags : List String :=
  ["instruction_override_attempt", "prohibited_action_request", "multiple_order_ids",
    "unnecessary_personal_data"]

/-- `search`: the pattern matches somewhere in the text. -/
def searches (p : Pattern Char) (text : String) : Bool :=
  (matches? (scan p text.toList)) ≠ []

/-- `_deterministic_risk_flags`. -/
def deterministicRiskFlags [CaseFolding] (content : String) (orderIds : List String) :
    List String :=
  let lowered := CaseFolding.casefold content
  let observed :=
    (if mentions lowered overridePatterns then ["instruction_override_attempt"] else []) ++
    (if mentions lowered prohibitedActionPatterns then ["prohibited_action_request"] else []) ++
    (if 1 < orderIds.length then ["multiple_order_ids"] else []) ++
    (if piiPatterns.any fun p => searches p content then ["unnecessary_personal_data"] else [])
  knownRiskFlags.filter fun flag => flag ∈ observed

/-- `normalize_triage_result`. -/
def normalizeTriageResult [CaseFolding] (content : String) (result : TriageResult) :
    TriageResult :=
  let orderIds := literalOrderIds content
  { intent := result.intent
    riskFlags := knownRiskFlags.filter fun flag =>
      flag ∈ result.riskFlags ∨ flag ∈ deterministicRiskFlags content orderIds
    orderIdsMentioned := orderIds }

/-! ### Personal data -/

/-- What stands in the place of personal data. -/
def hiddenMarker : List Char := "[已隐藏的个人信息]".toList

/-- `subn`: the text with each match replaced, and whether there was one. -/
def subn (p : Pattern Char) (text : List Char) : List Char × Bool :=
  let pieces := scan p text
  (substitute hiddenMarker pieces, matches? pieces ≠ [])

/-- The loop over `_PII_PATTERNS`. -/
def redactPersonalData (text : List Char) : List Char × Bool :=
  piiPatterns.foldl (fun state p =>
    let replaced := subn p state.1
    (replaced.1, state.2 || replaced.2)) (text, false)

namespace Triage

/-- `ValidatedCustomerMessage`, with the flag. -/
structure ValidatedMessage extends ValidatedCustomerMessage where
  hadUnnecessaryPersonalData : Bool
  deriving DecidableEq, Repr

/-- `validate_customer_message`. -/
def validateCustomerMessage (content : String) (maxChars : Nat) :
    Except String ValidatedMessage :=
  let normalized := stripText content
  if normalized = "" then .error "请输入需要核查的物流问题。"
  else if maxChars < normalized.length then
    .error ("消息不能超过 " ++ toString maxChars ++ " 个字符。")
  else
    let redacted := redactPersonalData normalized.toList
    .ok { content := normalized
          traceContent := String.ofList redacted.1
          hadUnnecessaryPersonalData := redacted.2 }

end Triage

/-- The redaction that the service is run with. -/
@[reducible]
def MessageRedaction.byPatterns : MessageRedaction where
  redact text :=
    let redacted := redactPersonalData text.toList
    (String.ofList redacted.1, redacted.2)

/-- The service stores what the check returns. -/
theorem validateCustomerMessage_byPatterns (content : String) :
    @validateCustomerMessage .byPatterns content =
      (Triage.validateCustomerMessage content maxMessageChars).toOption.map
        (·.toValidatedCustomerMessage) := by
  unfold validateCustomerMessage Triage.validateCustomerMessage
  dsimp only
  split_ifs <;> rfl

end Patterns

/-! ### Characters -/

theorem isUpper_iff {c : Char} : c.isUpper = true ↔ 65 ≤ c.toNat ∧ c.toNat ≤ 90 := by
  change decide (c.val ≥ ('A' : Char).val ∧ c.val ≤ ('Z' : Char).val) = true ↔ _
  rw [decide_eq_true_eq, ge_iff_le, UInt32.le_iff_toNat_le, UInt32.le_iff_toNat_le]
  exact Iff.rfl

theorem isLower_iff {c : Char} : c.isLower = true ↔ 97 ≤ c.toNat ∧ c.toNat ≤ 122 := by
  change (decide (c.val ≥ ('a' : Char).val) && decide (c.val ≤ ('z' : Char).val)) = true ↔ _
  rw [Bool.and_eq_true, decide_eq_true_eq, decide_eq_true_eq, ge_iff_le, UInt32.le_iff_toNat_le,
    UInt32.le_iff_toNat_le]
  exact Iff.rfl

theorem isAlpha_iff {c : Char} : c.isAlpha = true ↔ c.isUpper = true ∨ c.isLower = true :=
  (Bool.or_eq_true c.isUpper c.isLower).to_iff

theorem toNat_le_of_isDigit {c : Char} (h : c.isDigit = true) : c.toNat ≤ 57 := by
  simp only [Char.isDigit, Bool.and_eq_true, decide_eq_true_eq, UInt32.le_iff_toNat_le] at h
  exact h.2

section Words

variable [CharacterClasses]

theorem isWord_of_isLetter {c : Char} (h : isLetter c = true) : isWord c = true := by
  rw [isLetter, Bool.or_eq_true, decide_eq_true_eq] at h
  rcases h with halpha | hfolded
  · have hlt : c.toNat < 128 := by
      rw [isAlpha_iff, isUpper_iff, isLower_iff] at halpha
      omega
    rw [CharacterClasses.ascii_word c hlt, Char.isAlphanum, halpha]
    rfl
  · exact (CharacterClasses.folded c hfolded).1

theorem isWord_ascii {c : Char} (h : c.toNat < 128) (hout : (c.isAlphanum || c = '_') = false) :
    isWord c = false := (CharacterClasses.ascii_word c h).trans hout

theorem isWord_of_isDigit {c : Char} (h : c.isDigit = true) : isWord c = true := by
  have hle := toNat_le_of_isDigit h
  rw [CharacterClasses.ascii_word c (by omega), Char.isAlphanum, h, Bool.or_true]
  rfl

end Words

/-- The Latin and Chinese part of the tables. -/
@[reducible]
def CharacterClasses.latinAndChinese : CharacterClasses where
  isWord c := c.isAlphanum || c = '_' || c.toNat ∈ foldedLetters ||
    (0x4E00 ≤ c.toNat && c.toNat ≤ 0x9FA5)
  isDigit c := c.isDigit
  digit_word c h := by simp [Char.isAlphanum, h]
  ascii_digit _ _ := rfl
  ascii_word c h := by
    have hfolded : c.toNat ∉ foldedLetters := by
      intro hmem
      simp only [foldedLetters, List.mem_cons, List.not_mem_nil, or_false] at hmem
      omega
    have hideograph : ¬ 0x4E00 ≤ c.toNat := by omega
    simp [hfolded, hideograph]
  folded c h := by
    refine ⟨by simp [h], ?_⟩
    simp only [foldedLetters, List.mem_cons, List.not_mem_nil, or_false] at h
    rw [Bool.eq_false_iff]
    intro hdigit
    have hle := toNat_le_of_isDigit hdigit
    omega
  ideograph c h h' := by
    refine ⟨by simp [h, h'], ?_⟩
    rw [Bool.eq_false_iff]
    intro hdigit
    have hle := toNat_le_of_isDigit hdigit
    omega

end AfterSales
