import QuicFec.Lib.GoText

/-! # HTTP/3 header fields

`http3/headers.go`: `parseHeaders` checks a decoded QPACK header list in one
pass and collects the pseudo-header fields, the regular fields and the content
length.  The checks are per field, but two of them read what came before: a
pseudo-header field after a regular one is refused, and a `content-length`
field must repeat the first one.

Of the Go library functions it calls, `strings.ToLower` and the key
canonicalisation of `http.Header` are those of `Go.Strings` and
`Go.Textproto`, and `strconv.ParseUint` is modelled for base 10 and 63 bits.
httpguts' `ValidHeaderFieldName` and `ValidHeaderFieldValue`, and the Unicode
case table `strings.ToLower` reads outside ASCII, are the parameters of a
`Library`.

`parseHeaders` succeeds exactly on the lists `Accepted` describes
(`parseHeaders_ok_iff`), and then returns the last value of each pseudo-header
field (`parseHeaders_result`).  A pseudo-header field may occur more than once,
and a `content-length` field may be empty. -/
set_option autoImplicit false

namespace QuicFec.Http3

structure HeaderField where
  name : String
  value : String
deriving DecidableEq, Repr

/-- `HeaderField.IsPseudo`: the name starts with a colon. -/
def HeaderField.isPseudo (h : HeaderField) : Bool := h.name.startsWith ":"

/-- httpguts' checks, and the table `unicode.CaseRanges`. -/
structure Library where
  validHeaderFieldName : String → Bool
  validHeaderFieldValue : String → Bool
  caseRanges : List Go.Unicode.CaseRange

/-- `http.Header`: each canonical key with its values, in the order they were added. -/
def HttpHeader := String → List String

namespace HttpHeader

/-- `make(http.Header)`. -/
def empty : HttpHeader := fun _ => []

def add (h : HttpHeader) (key value : String) : HttpHeader := fun k =>
  if k = Go.Textproto.canonicalMIMEHeaderKey key then h k ++ [value] else h k

def set (h : HttpHeader) (key value : String) : HttpHeader := fun k =>
  if k = Go.Textproto.canonicalMIMEHeaderKey key then [value] else h k

end HttpHeader

/-- `header`; `ContentLength` is an `int64`. -/
structure Header where
  path : String
  method : String
  authority : String
  scheme : String
  status : String
  protocol : String
  contentLength : Int
  headers : HttpHeader

/-- The errors of `strconv.ParseUint`, `strconv.ErrSyntax` and `strconv.ErrRange`. -/
inductive NumError where
  | errSyntax
  | errRange
deriving DecidableEq, Repr

/-- The digit loop of `strconv.ParseUint` in base 10: it stops at the first
byte that is no digit, and at the first digit that takes the value above `maxVal`. -/
def parseUintDigits (maxVal : Nat) : Nat → List Char → Except NumError Nat
  | n, [] => .ok n
  | n, c :: cs =>
      if c.isDigit then
        if 10 * n + (c.toNat - '0'.toNat) > maxVal then .error .errRange
        else parseUintDigits maxVal (10 * n + (c.toNat - '0'.toNat)) cs
      else .error .errSyntax

def parseUint (s : String) : Except NumError Nat :=
  if s = "" then .error .errSyntax else parseUintDigits (2 ^ 63 - 1) 0 s.toList

/-- The errors `parseHeaders` returns. -/
inductive HeaderError where
  | notLowerCase (name : String)
  | invalidValue (name value : String)
  | pseudoAfterRegular (name : String)
  | unknownPseudo (name : String)
  | invalidRequestPseudo (name : String)
  | invalidResponsePseudo (name : String)
  | invalidName (name : String)
  | contradictingLengths (first second : String)
  | invalidContentLength (value : String) (err : NumError)
deriving DecidableEq, Repr

/-- Go's `%q` of a string without characters to escape. -/
def quoted (s : String) : String := "\"" ++ s ++ "\""

/-- The `strconv.NumError` text of `ParseUint`. -/
def NumError.toString (s : String) : NumError → String
  | .errSyntax => "strconv.ParseUint: parsing " ++ quoted s ++ ": invalid syntax"
  | .errRange => "strconv.ParseUint: parsing " ++ quoted s ++ ": value out of range"

/-- The texts of the errors. -/
def HeaderError.toString : HeaderError → String
  | .notLowerCase name => "header field is not lower-case: " ++ name
  | .invalidValue name value => "invalid header field value for " ++ name ++ ": " ++ quoted value
  | .pseudoAfterRegular name => "received pseudo header " ++ name ++ " after a regular header field"
  | .unknownPseudo name => "unknown pseudo header: " ++ name
  | .invalidRequestPseudo name => "invalid request pseudo header: " ++ name
  | .invalidResponsePseudo name => "invalid response pseudo header: " ++ name
  | .invalidName name => "invalid header field name: " ++ quoted name
  | .contradictingLengths first second => "contradicting content lengths (" ++ first ++ " and " ++ second ++ ")"
  | .invalidContentLength value err => "invalid content length: " ++ err.toString value

instance : ToString HeaderError := ⟨HeaderError.toString⟩

/-- The variables of the loop of `parseHeaders`. -/
structure ParseState where
  hdr : Header
  readFirstRegularHeader : Bool
  readContentLength : Bool
  contentLengthStr : String

/-- The switch on a pseudo-header field's name: the field it sets, and whether
it is the response pseudo-header field. -/
def setPseudo (hdr : Header) (h : HeaderField) : Except HeaderError (Header × Bool) :=
  match h.name with
  | ":path" => .ok ({ hdr with path := h.value }, false)
  | ":method" => .ok ({ hdr with method := h.value }, false)
  | ":authority" => .ok ({ hdr with authority := h.value }, false)
  | ":protocol" => .ok ({ hdr with protocol := h.value }, false)
  | ":scheme" => .ok ({ hdr with scheme := h.value }, false)
  | ":status" => .ok ({ hdr with status := h.value }, true)
  | _ => .error (.unknownPseudo h.name)

/-- One iteration of the loop of `parseHeaders`. -/
def parseField (lib : Library) (isRequest : Bool) (st : ParseState) (h : HeaderField) :
    Except HeaderError ParseState :=
  if Go.Strings.toLower lib.caseRanges h.name ≠ h.name then .error (.notLowerCase h.name)
  else if !lib.validHeaderFieldValue h.value then .error (.invalidValue h.name h.value)
  else if h.isPseudo then
    if st.readFirstRegularHeader then .error (.pseudoAfterRegular h.name)
    else do
      let (hdr, isResponsePseudoHeader) ← setPseudo st.hdr h
      if isRequest && isResponsePseudoHeader then .error (.invalidRequestPseudo h.name)
      else if !isRequest && !isResponsePseudoHeader then .error (.invalidResponsePseudo h.name)
      else pure { st with hdr := hdr }
  else if !lib.validHeaderFieldName h.name then .error (.invalidName h.name)
  else
    let st := { st with readFirstRegularHeader := true }
    if h.name = "content-length" then
      -- duplicates are ignored, but must agree with the first
      if !st.readContentLength then .ok { st with readContentLength := true, contentLengthStr := h.value }
      else if st.contentLengthStr ≠ h.value then .error (.contradictingLengths st.contentLengthStr h.value)
      else .ok st
    else .ok { st with hdr := { st.hdr with headers := st.hdr.headers.add h.name h.value } }

/-- The loop's variables before the first field. -/
def ParseState.init : ParseState :=
  ⟨⟨"", "", "", "", "", "", 0, HttpHeader.empty⟩, false, false, ""⟩

def parseHeaders (lib : Library) (headers : List HeaderField) (isRequest : Bool) :
    Except HeaderError Header := do
  let st ← headers.foldlM (parseField lib isRequest) ParseState.init
  if st.contentLengthStr.length > 0 then
    match parseUint st.contentLengthStr with
    | .error err => .error (.invalidContentLength st.contentLengthStr err)
    | .ok cl =>
        .ok { st.hdr with
          headers := st.hdr.headers.set "Content-Length" st.contentLengthStr
          contentLength := cl }
  else .ok st.hdr

/-! ## What the fields determine -/

/-- The pseudo-header fields a request may carry, and the one of a response. -/
def AllowedPseudo (isRequest : Bool) (name : String) : Prop :=
  if isRequest then name ∈ [":path", ":method", ":authority", ":protocol", ":scheme"] else name = ":status"

instance (isRequest : Bool) (name : String) : Decidable (AllowedPseudo isRequest name) :=
  inferInstanceAs (Decidable (if isRequest then _ else _))

/-- The value of the last field named `name`, or the empty string. -/
def lastValue (name : String) (fields : List HeaderField) : String :=
  ((fields.filter (·.name == name)).getLast?.map (·.value)).getD ""

/-- Whether a field is a regular field kept in `Headers` under the key `k`. -/
def KeptUnder (k : String) (h : HeaderField) : Bool :=
  !h.isPseudo && h.name != "content-length" && Go.Textproto.canonicalMIMEHeaderKey h.name == k

/-- The values of the regular fields kept under the key `k`, in order. -/
def regularValues (fields : List HeaderField) (k : String) : List String :=
  (fields.filter (KeptUnder k)).map (·.value)

/-- The value of the first `content-length` field, or the empty string. -/
def firstContentLength (fields : List HeaderField) : String :=
  ((fields.find? (·.name == "content-length")).map (·.value)).getD ""

/-- The loop's variables after the fields `done`, as those fields determine them. -/
def view (done : List HeaderField) : ParseState where
  hdr := ⟨lastValue ":path" done, lastValue ":method" done, lastValue ":authority" done,
    lastValue ":scheme" done, lastValue ":status" done, lastValue ":protocol" done, 0, regularValues done⟩
  readFirstRegularHeader := done.any (!·.isPseudo)
  readContentLength := done.any (·.name == "content-length")
  contentLengthStr := firstContentLength done

theorem lastValue_append_singleton (name : String) (done : List HeaderField) (h : HeaderField) :
    lastValue name (done ++ [h]) = if h.name = name then h.value else lastValue name done := by
  by_cases same : h.name = name <;> simp [lastValue, same]

theorem regularValues_append_singleton (done : List HeaderField) (h : HeaderField) (k : String) :
    regularValues (done ++ [h]) k =
      if KeptUnder k h then regularValues done k ++ [h.value] else regularValues done k := by
  by_cases kept : KeptUnder k h <;> simp [regularValues, kept]

theorem firstContentLength_append_singleton (done : List HeaderField) (h : HeaderField) :
    firstContentLength (done ++ [h]) =
      if h.name = "content-length" ∧ done.any (·.name == "content-length") = false then h.value
      else firstContentLength done := by
  unfold firstContentLength
  cases found : done.find? (·.name == "content-length") with
  | some d =>
    have seen : done.any (·.name == "content-length") = true := List.any_eq_true.mpr
      ⟨d, List.mem_of_find?_eq_some found, by simpa using List.find?_some found⟩
    simp [List.find?_append, found, seen]
  | none =>
    have unseen : done.any (·.name == "content-length") = false := by
      rw [List.find?_eq_none] at found
      simpa using found
    by_cases length : h.name = "content-length" <;> simp [List.find?_append, found, unseen, length]

theorem view_nil : view [] = ParseState.init := rfl

/-! ## One field -/

/-- The checks one field passes after the fields `done`. -/
def FieldOk (lib : Library) (isRequest : Bool) (done : List HeaderField) (h : HeaderField) : Prop :=
  Go.Strings.toLower lib.caseRanges h.name = h.name ∧ lib.validHeaderFieldValue h.value = true ∧
    if h.isPseudo then (∀ d ∈ done, d.isPseudo = true) ∧ AllowedPseudo isRequest h.name
    else lib.validHeaderFieldName h.name = true ∧
      (h.name = "content-length" → done.any (·.name == "content-length") = true →
        firstContentLength done = h.value)


theorem isPseudo_of_name {h : HeaderField} {name : String} (named : h.name = name)
    (colon : name.startsWith ":" = true) : h.isPseudo = true := by
  rw [HeaderField.isPseudo, named, colon]

theorem ne_contentLength_of_isPseudo {h : HeaderField} (pseudo : h.isPseudo = true) :
    h.name ≠ "content-length" := by
  intro named
  rw [HeaderField.isPseudo, named] at pseudo
  exact absurd pseudo (by simp)

theorem regularValues_append_of_isPseudo (done : List HeaderField) {h : HeaderField}
    (pseudo : h.isPseudo = true) : regularValues (done ++ [h]) = regularValues done := by
  funext k
  simp [regularValues_append_singleton, KeptUnder, pseudo]

/-- The pseudo-header fields the switch of `parseHeaders` knows. -/
def knownPseudo : List String := [":path", ":method", ":authority", ":protocol", ":scheme", ":status"]

theorem setPseudo_view (done : List HeaderField) (h : HeaderField) :
    setPseudo (view done).hdr h =
      if h.name ∈ knownPseudo then .ok ((view (done ++ [h])).hdr, h.name == ":status")
      else .error (.unknownPseudo h.name) := by
  unfold setPseudo
  split
  case h_7 notPath notMethod notAuthority notProtocol notScheme notStatus =>
    have unknown : h.name ∉ knownPseudo := by
      simp only [knownPseudo, List.mem_cons, List.not_mem_nil, or_false]
      exact fun known => by
        rcases known with named | named | named | named | named | named <;> simp_all
    rw [if_neg unknown]
  all_goals
    rename_i named
    have pseudo := isPseudo_of_name named (by simp)
    rw [if_pos (by simp [knownPseudo, named])]
    simp [view, named, lastValue_append_singleton, regularValues_append_of_isPseudo done pseudo]


theorem ne_of_not_isPseudo {h : HeaderField} (regular : h.isPseudo = false) {name : String}
    (colon : name.startsWith ":" = true) : h.name ≠ name := by
  intro named
  rw [isPseudo_of_name named colon] at regular
  exact Bool.noConfusion regular

theorem view_append_of_isPseudo (done : List HeaderField) {h : HeaderField}
    (pseudo : h.isPseudo = true) :
    view (done ++ [h]) = { view done with hdr := (view (done ++ [h])).hdr } := by
  simp [view, firstContentLength_append_singleton, pseudo, ne_contentLength_of_isPseudo pseudo]

theorem view_append_of_regular (done : List HeaderField) {h : HeaderField}
    (regular : h.isPseudo = false) :
    view (done ++ [h]) = ⟨{ (view done).hdr with headers := regularValues (done ++ [h]) }, true,
      done.any (·.name == "content-length") || h.name == "content-length", firstContentLength (done ++ [h])⟩ := by
  simp [view, lastValue_append_singleton, regular, ne_of_not_isPseudo regular]

theorem parseField_view (lib : Library) (isRequest : Bool) (done : List HeaderField) (h : HeaderField)
    (st : ParseState) :
    parseField lib isRequest (view done) h = .ok st ↔
      FieldOk lib isRequest done h ∧ st = view (done ++ [h]) := by
  unfold parseField FieldOk
  by_cases lower : Go.Strings.toLower lib.caseRanges h.name = h.name
  swap
  · simp [lower]
  by_cases valid : lib.validHeaderFieldValue h.value = true
  swap
  · simp [lower, valid]
  simp only [lower, valid, ne_eq, not_true_eq_false, if_false, Bool.not_true, Bool.false_eq_true, true_and]
  cases pseudo : h.isPseudo with
  | true =>
    rw [view_append_of_isPseudo done pseudo]
    simp only [if_true]
    by_cases seen : ∀ d ∈ done, d.isPseudo = true
    · have unseen : (view done).readFirstRegularHeader = false := by simpa [view] using seen
      rw [unseen, setPseudo_view]
      by_cases known : h.name ∈ knownPseudo
      · rw [if_pos known]
        cases isRequest <;> by_cases status : h.name = ":status"
        all_goals simp only [knownPseudo, List.mem_cons, List.not_mem_nil, or_false] at known
        all_goals simp [AllowedPseudo, status, bind, Except.bind, pure, Except.pure]
        · exact ⟨fun same => ⟨seen, same.symm⟩, fun checked => checked.2.symm⟩
        · exact ⟨fun same => ⟨⟨seen, by simpa [status] using known⟩, same.symm⟩, fun checked => checked.2.symm⟩
      · -- an unknown name is allowed in neither direction
        have unallowed : ¬ AllowedPseudo isRequest h.name := by
          cases isRequest <;> simp_all [AllowedPseudo, knownPseudo]
        rw [if_neg known]
        simp [bind, Except.bind, unallowed]
    · have regularSeen : (view done).readFirstRegularHeader = true := by simpa [view] using seen
      rw [regularSeen]
      simp [seen]
  | false =>
    rw [view_append_of_regular done pseudo]
    simp only [Bool.false_eq_true, if_false]
    by_cases name : lib.validHeaderFieldName h.name = true
    swap
    · simp [name]
    simp only [name, Bool.not_true, Bool.false_eq_true, if_false, true_and]
    by_cases length : h.name = "content-length"
    · have unkept : regularValues (done ++ [h]) = regularValues done := by
        funext k
        simp [regularValues_append_singleton, KeptUnder, length]
      rw [unkept, firstContentLength_append_singleton]
      simp only [length, if_true, true_implies, beq_self_eq_true, Bool.or_true, true_and]
      cases seen : done.any (·.name == "content-length")
      · simpa [view, seen] using eq_comm
      · by_cases same : firstContentLength done = h.value
        · simpa [view, seen, same] using eq_comm
        · simp [view, seen, same]
    · have kept : regularValues (done ++ [h]) = (view done).hdr.headers.add h.name h.value := by
        funext k
        by_cases key : k = Go.Textproto.canonicalMIMEHeaderKey h.name
        · simp [regularValues_append_singleton, KeptUnder, pseudo, length, HttpHeader.add, view, key]
        · simp [regularValues_append_singleton, KeptUnder, pseudo, length, HttpHeader.add, view, key, Ne.symm key]
      have unnamed : (h.name == "content-length") = false := by simpa using length
      rw [kept, firstContentLength_append_singleton]
      simpa [length, unnamed, view] using eq_comm


/-! ## The loop -/

/-- Every field passes its checks after the fields before it. -/
def FieldsOk (lib : Library) (isRequest : Bool) : List HeaderField → List HeaderField → Prop
  | _, [] => True
  | done, h :: rest => FieldOk lib isRequest done h ∧ FieldsOk lib isRequest (done ++ [h]) rest

theorem exceptBind_eq_ok {ε α β : Type} {x : Except ε α} {f : α → Except ε β} {b : β} :
    x >>= f = .ok b ↔ ∃ a, x = .ok a ∧ f a = .ok b := by
  cases x <;> simp [bind, Except.bind]

theorem foldlM_parseField_view (lib : Library) (isRequest : Bool) (done rest : List HeaderField)
    (st : ParseState) :
    rest.foldlM (parseField lib isRequest) (view done) = .ok st ↔
      FieldsOk lib isRequest done rest ∧ st = view (done ++ rest) := by
  induction rest generalizing done with
  | nil => simpa [FieldsOk, pure, Except.pure] using eq_comm
  | cons h rest ih =>
    rw [List.foldlM_cons, exceptBind_eq_ok]
    constructor
    · rintro ⟨next, first, later⟩
      obtain ⟨ok, rfl⟩ := (parseField_view lib isRequest done h next).mp first
      obtain ⟨oks, rfl⟩ := (ih (done ++ [h])).mp later
      exact ⟨⟨ok, oks⟩, by simp⟩
    · rintro ⟨⟨ok, oks⟩, rfl⟩
      exact ⟨_, (parseField_view lib isRequest done h _).mpr ⟨ok, rfl⟩,
        (ih (done ++ [h])).mpr ⟨oks, by simp⟩⟩


/-! ## The lists `parseHeaders` accepts -/

/-- The checks of `parseHeaders` on a whole list of fields, the content length aside. -/
structure Checked (lib : Library) (isRequest : Bool) (fields : List HeaderField) : Prop where
  lowerCase : ∀ h ∈ fields, Go.Strings.toLower lib.caseRanges h.name = h.name
  validValue : ∀ h ∈ fields, lib.validHeaderFieldValue h.value = true
  pseudoFirst : fields.Pairwise fun earlier later => later.isPseudo = true → earlier.isPseudo = true
  pseudoAllowed : ∀ h ∈ fields, h.isPseudo = true → AllowedPseudo isRequest h.name
  validName : ∀ h ∈ fields, h.isPseudo = false → lib.validHeaderFieldName h.name = true
  sameLength : ∀ h ∈ fields, ∀ h' ∈ fields, h.name = "content-length" → h'.name = "content-length" →
    h.value = h'.value

/-- The lists `parseHeaders` accepts: every name is lower case and every value
valid, the pseudo-header fields come first and are those of the direction, the
regular names are valid, all `content-length` fields agree, and their value
parses unless it is empty.  Nothing limits how often a pseudo-header field occurs. -/
structure Accepted (lib : Library) (isRequest : Bool) (fields : List HeaderField) : Prop
    extends Checked lib isRequest fields where
  lengthParses : firstContentLength fields ≠ "" → ∃ n, parseUint (firstContentLength fields) = .ok n

theorem firstContentLength_of_any {done : List HeaderField}
    (seen : done.any (·.name == "content-length") = true) :
    ∃ d ∈ done, d.name = "content-length" ∧ firstContentLength done = d.value := by
  unfold firstContentLength
  cases found : done.find? (·.name == "content-length") with
  | none =>
    rw [List.find?_eq_none] at found
    obtain ⟨d, member, named⟩ := List.any_eq_true.mp seen
    exact absurd named (found d member)
  | some d => exact ⟨d, List.mem_of_find?_eq_some found, by simpa using List.find?_some found, rfl⟩

section Checked

variable {lib : Library} {isRequest : Bool}

theorem checked_nil : Checked lib isRequest [] :=
  ⟨(fun _ member => nomatch member), (fun _ member => nomatch member), .nil, (fun _ member => nomatch member),
    (fun _ member => nomatch member), (fun _ member => nomatch member)⟩

theorem Checked.prefix {l₁ l₂ : List HeaderField} (checked : Checked lib isRequest (l₁ ++ l₂)) :
    Checked lib isRequest l₁ where
  lowerCase h member := checked.lowerCase h (List.mem_append_left _ member)
  validValue h member := checked.validValue h (List.mem_append_left _ member)
  pseudoFirst := (List.pairwise_append.mp checked.pseudoFirst).1
  pseudoAllowed h member := checked.pseudoAllowed h (List.mem_append_left _ member)
  validName h member := checked.validName h (List.mem_append_left _ member)
  sameLength h member h' member' :=
    checked.sameLength h (List.mem_append_left _ member) h' (List.mem_append_left _ member')

theorem Checked.fieldOk {done : List HeaderField} {h : HeaderField}
    (checked : Checked lib isRequest (done ++ [h])) : FieldOk lib isRequest done h := by
  have last : h ∈ done ++ [h] := by simp
  refine ⟨checked.lowerCase h last, checked.validValue h last, ?_⟩
  cases pseudo : h.isPseudo with
  | true =>
    exact ⟨fun d member => (List.pairwise_append.mp checked.pseudoFirst).2.2 d member h (by simp) pseudo,
      checked.pseudoAllowed h last pseudo⟩
  | false =>
    refine ⟨checked.validName h last pseudo, fun length seen => ?_⟩
    obtain ⟨d, member, named, first⟩ := firstContentLength_of_any seen
    rw [first]
    exact checked.sameLength d (List.mem_append_left _ member) h last named length

theorem forall_mem_append_singleton {P : HeaderField → Prop} {done : List HeaderField} {h : HeaderField}
    (old : ∀ d ∈ done, P d) (new : P h) : ∀ d ∈ done ++ [h], P d := by
  intro d member
  rcases List.mem_append.mp member with before | last
  · exact old d before
  · rw [List.mem_singleton.mp last]
    exact new

theorem Checked.append {done : List HeaderField} {h : HeaderField} (checked : Checked lib isRequest done)
    (ok : FieldOk lib isRequest done h) : Checked lib isRequest (done ++ [h]) := by
  obtain ⟨lower, valid, rest⟩ := ok
  have pseudoOk : h.isPseudo = true → (∀ d ∈ done, d.isPseudo = true) ∧ AllowedPseudo isRequest h.name := by
    intro pseudo
    simpa [pseudo] using rest
  have regularOk : h.isPseudo = false → lib.validHeaderFieldName h.name = true ∧
      (h.name = "content-length" → done.any (·.name == "content-length") = true →
        firstContentLength done = h.value) := by
    intro regular
    simpa [regular] using rest
  have sameAsFirst : ∀ d ∈ done, d.name = "content-length" → h.name = "content-length" → d.value = h.value := by
    intro d member named length
    have regular : h.isPseudo = false := by
      rw [HeaderField.isPseudo, length]
      simp
    obtain ⟨first, firstMember, firstNamed, isFirst⟩ :=
      firstContentLength_of_any (List.any_eq_true.mpr ⟨d, member, by simpa using named⟩)
    rw [checked.sameLength d member first firstMember named firstNamed, ← isFirst]
    exact (regularOk regular).2 length (List.any_eq_true.mpr ⟨d, member, by simpa using named⟩)
  refine ⟨forall_mem_append_singleton checked.lowerCase lower,
    forall_mem_append_singleton checked.validValue valid, ?_,
    forall_mem_append_singleton checked.pseudoAllowed fun pseudo => (pseudoOk pseudo).2,
    forall_mem_append_singleton checked.validName fun regular => (regularOk regular).1, ?_⟩
  · exact List.pairwise_append.mpr ⟨checked.pseudoFirst, List.pairwise_singleton _ _,
      fun d member later newer pseudo => (pseudoOk (by rwa [List.mem_singleton.mp newer] at pseudo)).1 d member⟩
  · intro d member d' member' named named'
    rcases List.mem_append.mp member with old | new <;> rcases List.mem_append.mp member' with old' | new'
    · exact checked.sameLength d old d' old' named named'
    · rw [List.mem_singleton.mp new'] at named' ⊢
      exact sameAsFirst d old named named'
    · rw [List.mem_singleton.mp new] at named ⊢
      exact (sameAsFirst d' old' named' named).symm
    · rw [List.mem_singleton.mp new, List.mem_singleton.mp new']

theorem fieldsOk_iff {done : List HeaderField} (checked : Checked lib isRequest done) (rest : List HeaderField) :
    FieldsOk lib isRequest done rest ↔ Checked lib isRequest (done ++ rest) := by
  induction rest generalizing done with
  | nil => simpa [FieldsOk] using checked
  | cons h rest ih =>
    have split : done ++ h :: rest = done ++ [h] ++ rest := by simp
    rw [FieldsOk, split]
    constructor
    · rintro ⟨ok, oks⟩
      exact (ih (checked.append ok)).mp oks
    · intro all
      have first : Checked lib isRequest (done ++ [h]) := all.prefix
      exact ⟨first.fieldOk, (ih first).mpr all⟩

end Checked


/-! ## `parseHeaders` -/

theorem length_pos_iff_ne_empty (s : String) : s.length > 0 ↔ s ≠ "" := by
  rw [gt_iff_lt, Nat.pos_iff_ne_zero, ne_eq, String.length_eq_zero_iff]

theorem foldlM_parseField_init (lib : Library) (isRequest : Bool) (fields : List HeaderField) (st : ParseState) :
    fields.foldlM (parseField lib isRequest) ParseState.init = .ok st ↔
      Checked lib isRequest fields ∧ st = view fields := by
  rw [← view_nil, foldlM_parseField_view, fieldsOk_iff checked_nil, List.nil_append]

theorem parseHeaders_ok_iff (lib : Library) (fields : List HeaderField) (isRequest : Bool) :
    (∃ hdr, parseHeaders lib fields isRequest = .ok hdr) ↔ Accepted lib isRequest fields := by
  unfold parseHeaders
  cases ran : fields.foldlM (parseField lib isRequest) ParseState.init with
  | error e =>
    have unchecked : ¬ Checked lib isRequest fields := fun checked => by
      have ok := (foldlM_parseField_init lib isRequest fields (view fields)).mpr ⟨checked, rfl⟩
      rw [ran] at ok
      cases ok
    simp only [bind, Except.bind, reduceCtorEq, exists_false, false_iff]
    exact fun accepted => unchecked accepted.toChecked
  | ok st =>
    obtain ⟨checked, rfl⟩ := (foldlM_parseField_init lib isRequest fields st).mp ran
    simp only [bind, Except.bind, view, length_pos_iff_ne_empty]
    by_cases empty : firstContentLength fields = ""
    · simp only [empty, ne_eq, not_true_eq_false, if_false]
      exact ⟨fun _ => ⟨checked, fun unempty => absurd empty unempty⟩, fun _ => ⟨_, rfl⟩⟩
    · rw [if_pos empty]
      cases parsed : parseUint (firstContentLength fields) with
      | error err =>
        simp only [reduceCtorEq, exists_false, false_iff]
        intro accepted
        obtain ⟨n, parses⟩ := accepted.lengthParses empty
        rw [parsed] at parses
        cases parses
      | ok n => exact ⟨fun _ => ⟨checked, fun _ => ⟨n, parsed⟩⟩, fun _ => ⟨_, rfl⟩⟩

theorem parseHeaders_result {lib : Library} {fields : List HeaderField} {isRequest : Bool} {hdr : Header}
    (parsed : parseHeaders lib fields isRequest = .ok hdr) :
    hdr.path = lastValue ":path" fields ∧ hdr.method = lastValue ":method" fields ∧
      hdr.authority = lastValue ":authority" fields ∧ hdr.scheme = lastValue ":scheme" fields ∧
      hdr.status = lastValue ":status" fields ∧ hdr.protocol = lastValue ":protocol" fields ∧
      (∀ k, hdr.headers k =
        if firstContentLength fields ≠ "" ∧ k = Go.Textproto.canonicalMIMEHeaderKey "Content-Length" then
          [firstContentLength fields]
        else regularValues fields k) ∧
      hdr.contentLength = match parseUint (firstContentLength fields) with
        | .ok n => n
        | .error _ => 0 := by
  unfold parseHeaders at parsed
  cases ran : fields.foldlM (parseField lib isRequest) ParseState.init with
  | error e =>
    simp [ran, bind, Except.bind] at parsed
  | ok st =>
    obtain ⟨_, rfl⟩ := (foldlM_parseField_init lib isRequest fields st).mp ran
    simp only [ran, bind, Except.bind, view, length_pos_iff_ne_empty] at parsed
    by_cases empty : firstContentLength fields = ""
    · -- no content length: the header as the loop left it
      simp only [empty, ne_eq, not_true_eq_false, if_false, Except.ok.injEq] at parsed
      subst parsed
      have unparsed : parseUint "" = .error .errSyntax := rfl
      simp [empty, unparsed, regularValues]
    · rw [if_pos empty] at parsed
      cases parses : parseUint (firstContentLength fields) with
      | error err =>
        simp [parses] at parsed
      | ok n =>
        simp only [parses, Except.ok.injEq] at parsed
        subst parsed
        refine ⟨rfl, rfl, rfl, rfl, rfl, rfl, fun k => ?_, rfl⟩
        by_cases key : k = Go.Textproto.canonicalMIMEHeaderKey "Content-Length" <;>
          simp [HttpHeader.set, empty, key]


/-- Two `:method` fields are accepted, and the second wins; a `content-length`
field with an empty value, which does not parse, is accepted with length 0.
RFC 9114 requires exactly one `:method` field, and a content length is digits. -/
theorem parseHeaders_repeated_pseudo (lib : Library)
    (validGet : lib.validHeaderFieldValue "GET" = true) (validPost : lib.validHeaderFieldValue "POST" = true)
    (validEmpty : lib.validHeaderFieldValue "" = true)
    (validLength : lib.validHeaderFieldName "content-length" = true) :
    (∃ hdr, parseHeaders lib [⟨":method", "GET"⟩, ⟨":method", "POST"⟩] true = .ok hdr ∧ hdr.method = "POST") ∧
      (∃ hdr, parseHeaders lib [⟨"content-length", ""⟩] false = .ok hdr ∧ hdr.contentLength = 0) ∧
      parseUint "" = .error .errSyntax := by
  have lowerMethod : Go.Strings.toLower lib.caseRanges ":method" = ":method" :=
    (Go.Strings.toLower_eq_self_of_ascii lib.caseRanges (by simp [Go.Utf8.runeSelf])).mpr (by simp)
  have lowerLength : Go.Strings.toLower lib.caseRanges "content-length" = "content-length" :=
    (Go.Strings.toLower_eq_self_of_ascii lib.caseRanges (by simp [Go.Utf8.runeSelf])).mpr (by simp)
  refine ⟨?_, ?_, rfl⟩
  · simp [parseHeaders, parseField, setPseudo, HeaderField.isPseudo, lowerMethod, validGet, validPost,
      ParseState.init, bind, Except.bind, pure, Except.pure]
  · simp [parseHeaders, parseField, HeaderField.isPseudo, lowerLength, validEmpty, validLength,
      ParseState.init, bind, Except.bind, pure, Except.pure]

theorem parseHeaders_repeated_pseudo_plainLibrary :
    (∃ hdr, parseHeaders ⟨fun _ => true, fun _ => true, []⟩ [⟨":method", "GET"⟩, ⟨":method", "POST"⟩] true =
        .ok hdr ∧ hdr.method = "POST") ∧
      (∃ hdr, parseHeaders ⟨fun _ => true, fun _ => true, []⟩ [⟨"content-length", ""⟩] false = .ok hdr ∧
        hdr.contentLength = 0) ∧
      parseUint "" = .error .errSyntax :=
  parseHeaders_repeated_pseudo ⟨fun _ => true, fun _ => true, []⟩ rfl rfl rfl rfl

end QuicFec.Http3
