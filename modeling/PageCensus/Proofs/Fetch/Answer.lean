import PageCensus.Fetch.Response
import PageCensus.Proofs.Fetch.Head
import PageCensus.Proofs.Text.Digits

/-!
# What arrives of a response

What a server has to say about a page arrives as it was sent, but for spaces around it, and so does
the page: it is complete if no byte of it is missing, and ends too early otherwise.  The status
decides whether there is a page at all, and nothing else about what arrives.

* `Response.answer_of_isPlain` — the answer in a response that breaks no rule.
* `Response.answer_withStatus` — another status makes no difference but itself.
-/

set_option autoImplicit false

namespace PageCensus

/-! ## The announced length -/

namespace Head

/-- A text without spaces and tabs is left as it is. -/
theorem trimmed_eq_self {text : List Char} (h : ∀ c ∈ text, (c == ' ' || c == '\t') = false) :
    MediaType.trimmed text = text := by
  have hfront : ∀ c ∈ text.head?, (c == ' ' || c == '\t') = false :=
    fun c hc => h c (List.mem_of_mem_head? hc)
  have hback : ∀ c ∈ text.reverse.head?, (c == ' ' || c == '\t') = false :=
    fun c hc => h c (List.mem_reverse.1 (List.mem_of_mem_head? hc))
  rw [MediaType.trimmed, dropWhile_eq_self_of_head? hfront, dropWhile_eq_self_of_head? hback,
    List.reverse_reverse]

theorem ne_of_isDigit {c d : Char} (hc : c.isDigit = true) (hd : d.isDigit = false) : c ≠ d := by
  rintro rfl
  rw [hc] at hd
  cases hd

theorem trimmed_toString (n : Nat) :
    MediaType.trimmed (toString n).toList = (toString n).toList := by
  refine trimmed_eq_self fun c hc => ?_
  have hdigit := isDigit_of_mem_toString hc
  rw [Bool.or_eq_false_iff, beq_eq_false_iff_ne, beq_eq_false_iff_ne]
  exact ⟨ne_of_isDigit hdigit (by decide), ne_of_isDigit hdigit (by decide)⟩

theorem isValueChar_of_isDigit {c : Char} (h : c.isDigit = true) : isValueChar c = true := by
  have hspace : 0x20 ≤ c.toNat := Nat.le_trans (by decide) (toNat_of_isDigit h).1
  rw [isValueChar, decide_eq_true hspace, bne_iff_ne.2 (ne_of_isDigit h (by decide)), Bool.true_and,
    Bool.or_true]

theorem octets_toString (n : Nat) : octets (toString n).toList = (toString n).toList :=
  octets_eq_self fun c hc => isTokenChar_lt (by
    rw [MediaType.isTokenChar, Char.isAlphanum, isDigit_of_mem_toString hc, Bool.or_true,
      Bool.true_or])

/-- A number is typed as it is written. -/
theorem numeral_toString {n : Nat} (hn : n < 1 <<< 64) : Numeral (toString n) n := by
  have hrepr : (toString n).toList = Nat.toDigits 10 n := by
    rw [Nat.toString_eq_repr, Nat.toList_repr]
  refine ⟨⟨(toString n).toList, Or.inl rfl, ?_, fun c => isDigit_of_mem_toString, ?_⟩, hn⟩
  · rw [hrepr]
    exact Nat.toDigits_ne_nil
  · rw [hrepr]
    exact Nat.ofDigitChars_toDigits (by decide) (by decide)

/-- **A length that is announced once is read**, unless it is too great. -/
theorem length?_eq_ok {head : Head} {n : Nat}
    (h : head.values "content-length" = [(toString n).toList]) (hn : n ≤ lengthLimit) :
    head.length? = .ok (some n) := by
  have hcut : ∀ c ∈ (toString n).toList, (c == ',') = false := fun c hc =>
    beq_eq_false_iff_ne.2 (ne_of_isDigit (isDigit_of_mem_toString hc) (by decide))
  have hplus : (toString n).toList.head? ≠ some '+' := fun hplus =>
    ne_of_isDigit (isDigit_of_mem_toString (List.mem_of_mem_head? hplus)) (by decide) rfl
  have hfits : n < 1 <<< 64 := Nat.lt_of_le_of_lt hn (by decide)
  have hread : readNumber (String.ofList (toString n).toList) = .ok n := by
    rw [String.ofList_toList]
    exact readNumber_eq_ok_iff.2 (numeral_toString hfits)
  rw [length?, h, List.flatMap_singleton, pieces_eq_singleton hcut, List.map_singleton]
  simp only [trimmed_toString, if_neg hplus, hread, Except.toOption, List.all_nil, Bool.not_true,
    Bool.false_eq_true, if_false, if_neg (Nat.not_lt.2 hn)]

/-- Whether there is a page is all that the status says about it. -/
theorem page_withStatus {status other : Nat} (h : hasPage status = true)
    (hother : hasPage other = true) (isOld : Bool) (fields : List (String × List UInt8))
    (bytes : List UInt8) :
    (⟨isOld, other, fields⟩ : Head).page bytes = (⟨isOld, status, fields⟩ : Head).page bytes := by
  rw [page, page, h, hother]
  rfl

end Head

namespace Response

variable {response : Response} {head : Head}

/-- The lines in front of the page. -/
def headLines (response : Response) : List (String × String) :=
  let line (name : String) (value : Option String) := value.toList.map fun value => (name, value)
  line "content-type" response.contentType ++ line "location" response.location ++
    [("content-length", toString (response.body.length + response.missing))]

theorem head_eq (response : Response) :
    response.head = Head.ofTexts response.status response.headLines := rfl

/-- Unless the answer is still to come, it is read from the lines in front of the page. -/
theorem answer_eq (hfinal : isInterim response.status = false) (hhead : response.head = .ok head) :
    response.answer = (head.page response.body).map fun page =>
      ⟨response.status, head.text? "content-type", head.text? "location", page⟩ := by
  obtain ⟨-, fields, -, rfl⟩ := Head.ofTexts_eq_ok_iff.1 (head_eq response ▸ hhead)
  rw [answer, hhead]
  show answerWithin _ _ _ = _
  rw [answerWithin, hfinal, if_neg Bool.false_ne_true]
  cases Head.page _ response.body <;> rfl

/-! ## Another status -/

/-- An answer with a page is the last one. -/
theorem isInterim_of_hasPage {status : Nat} (h : Head.hasPage status = true) :
    isInterim status = false := by
  rw [Head.hasPage, Bool.not_eq_true', Bool.or_eq_false_iff, Bool.or_eq_false_iff,
    decide_eq_false_iff_not] at h
  rw [isInterim, decide_eq_false h.1.1, Bool.and_false, Bool.false_and]

/-- **Another status makes no difference but itself**, as long as there is a page with it. -/
theorem answer_withStatus {answer : Answer} {other : Nat}
    (h : Head.hasPage response.status = true) (hother : Head.hasPage other = true)
    (hstatus : Head.isStatus other = true) (hanswer : response.answer = .ok answer) :
    ({ response with status := other } : Response).answer =
      .ok { answer with status := other } := by
  cases hhead : response.head with
  | error fault =>
    rw [Response.answer, hhead] at hanswer
    cases hanswer
  | ok head =>
    obtain ⟨-, fields, hread, rfl⟩ := Head.ofTexts_eq_ok_iff.1 (head_eq response ▸ hhead)
    have hhead' : ({ response with status := other } : Response).head =
        .ok ⟨false, other, fields⟩ := Head.ofTexts_eq_ok_iff.2 ⟨hstatus, fields, hread, rfl⟩
    rw [answer_eq (isInterim_of_hasPage h) hhead] at hanswer
    rw [answer_eq (isInterim_of_hasPage hother) hhead', Head.page_withStatus h hother]
    cases hpage : (⟨false, response.status, fields⟩ : Head).page response.body with
    | error fault =>
      rw [hpage] at hanswer
      cases hanswer
    | ok page =>
      rw [hpage] at hanswer
      cases hanswer
      rfl

/-! ## Responses that break no rule -/

/-- A response that breaks no rule. -/
structure IsPlain (response : Response) : Prop where
  /-- Its status is one, -/
  status : Head.isStatus response.status = true
  /-- the last one that comes, -/
  final : isInterim response.status = false
  /-- the kind of text is one that can be said, -/
  contentType : ∀ text ∈ response.contentType, ∀ c ∈ text.toList, Head.isValueChar c = true
  /-- and so is where else to look, -/
  location : ∀ text ∈ response.location, ∀ c ∈ text.toList, Head.isValueChar c = true
  /-- and the announced length is one that can be announced. -/
  length : response.body.length + response.missing ≤ Head.lengthLimit

instance : Decidable response.IsPlain :=
  decidable_of_iff (Head.isStatus response.status = true ∧ isInterim response.status = false ∧
      (response.contentType.all fun text => text.toList.all Head.isValueChar) = true ∧
      (response.location.all fun text => text.toList.all Head.isValueChar) = true ∧
      response.body.length + response.missing ≤ Head.lengthLimit) <| by
    simp only [Option.all_eq_true, List.all_eq_true]
    exact ⟨fun ⟨h₁, h₂, h₃, h₄, h₅⟩ => ⟨h₁, h₂, h₃, h₄, h₅⟩,
      fun ⟨h₁, h₂, h₃, h₄, h₅⟩ => ⟨h₁, h₂, h₃, h₄, h₅⟩⟩

/-- A text as it arrives. -/
def arrived (text : String) : String := String.ofList (MediaType.trimmed text.toList)

/-- The page as it arrives. -/
def arrivedPage (response : Response) : Except PageFault (List UInt8) :=
  if !Head.hasPage response.status then .ok []
  else if response.missing = 0 then .ok response.body
  else .error .endsEarly

/-- The answer as it arrives. -/
def arrival (response : Response) : Answer :=
  ⟨response.status, response.contentType.map arrived, response.location.map arrived,
    response.arrivedPage⟩

theorem page_arrival (h : Head.hasPage response.status = true) :
    response.arrival.page =
      if response.missing = 0 then .ok response.body else .error .endsEarly := by
  rw [arrival, arrivedPage, h]
  rfl

/-- The names of the lines in front of a page. -/
def lineNames : List String := ["content-type", "location", "content-length"]

theorem isLine_of_mem {name value : String} (hname : name ∈ lineNames)
    (hvalue : ∀ c ∈ value.toList, Head.isValueChar c = true) : Head.IsLine (name, value) := by
  have hnames : ∀ name ∈ lineNames, name.toList ≠ [] ∧
      name.toList.all MediaType.isTokenChar = true := by decide
  exact ⟨(hnames name hname).1, List.all_eq_true.1 (hnames name hname).2, hvalue⟩

theorem isLine_of_mem_headLines (h : response.IsPlain) :
    ∀ line ∈ response.headLines, Head.IsLine line := by
  intro line hline
  rw [headLines, List.mem_append, List.mem_append, List.mem_singleton, List.mem_map,
    List.mem_map] at hline
  rcases hline with (⟨text, htext, rfl⟩ | ⟨text, htext, rfl⟩) | rfl
  · exact isLine_of_mem (by decide) (h.contentType text (Option.mem_toList.1 htext))
  · exact isLine_of_mem (by decide) (h.location text (Option.mem_toList.1 htext))
  · exact isLine_of_mem (by decide) fun c hc =>
      Head.isValueChar_of_isDigit (isDigit_of_mem_toString hc)

/-- Their names are read as they are written. -/
theorem fieldOf_eq {name value : String} (hname : name ∈ lineNames) :
    Head.fieldOf (name, value) = (name, Utf8.encode (MediaType.trimmed value.toList)) := by
  have hlower : ∀ name ∈ lineNames, String.ofList (name.toList.map Char.toLower) = name := by
    decide
  rw [Head.fieldOf, hlower name hname]

theorem map_fieldOf_line {name : String} (value : Option String)
    (hname : name ∈ lineNames) :
    (value.toList.map fun text => (name, text)).map Head.fieldOf =
      value.toList.map fun text => (name, Utf8.encode (MediaType.trimmed text.toList)) := by
  rw [List.map_map]
  exact List.map_congr_left fun text _ => fieldOf_eq hname

/-- The lines in front of the page as they arrive. -/
theorem map_fieldOf_headLines (response : Response) : response.headLines.map Head.fieldOf =
    response.contentType.toList.map (fun text =>
      ("content-type", Utf8.encode (MediaType.trimmed text.toList))) ++
    response.location.toList.map (fun text =>
      ("location", Utf8.encode (MediaType.trimmed text.toList))) ++
    [("content-length",
      Utf8.encode (toString (response.body.length + response.missing)).toList)] := by
  rw [headLines, List.map_append, List.map_append, map_fieldOf_line _ (by decide),
    map_fieldOf_line _ (by decide), List.map_singleton, fieldOf_eq (by decide),
    Head.trimmed_toString]

theorem length_headLines_le (response : Response) : response.headLines.length ≤ 3 := by
  rw [headLines]
  cases response.contentType <;> cases response.location <;> simp

/-- A value arrives as it was sent, but for spaces around it. -/
theorem text?_eq {name : String} {value : Option String} (h : head.fields.lookup name =
    value.map fun text => Utf8.encode (MediaType.trimmed text.toList)) :
    head.text? name = value.map arrived := by
  rw [Head.text?, h]
  cases value with
  | none => rfl
  | some text =>
    rw [Option.map_some, Option.bind_eq_bind, Option.bind_some, Utf8.isValid_encode,
      Utf8.decode_encode, if_pos rfl]
    rfl

/-- The page arrives as it was sent, as far as it was. -/
theorem page_eq (h : response.IsPlain) :
    (⟨false, response.status, response.headLines.map Head.fieldOf⟩ : Head).page response.body =
      .ok response.arrivedPage := by
  have hway : (⟨false, response.status, response.headLines.map Head.fieldOf⟩ : Head).values
      "transfer-encoding" = [] := by
    rw [Head.values, map_fieldOf_headLines]
    cases response.contentType <;> cases response.location <;> rfl
  have hlength : (⟨false, response.status, response.headLines.map Head.fieldOf⟩ : Head).values
      "content-length" = [(toString (response.body.length + response.missing)).toList] := by
    refine Eq.trans ?_ (congrArg (fun digits => [digits]) (Head.octets_toString _))
    rw [Head.values, map_fieldOf_headLines, Head.octets]
    -- the digits are of no matter for where they are found
    generalize Utf8.encode (toString (response.body.length + response.missing)).toList = bytes
    cases response.contentType <;> cases response.location <;> rfl
  rw [Head.page, arrivedPage, hway, Head.length?_eq_ok hlength h.length]
  cases Head.hasPage response.status with
  | false => rfl
  | true =>
    simp only [Bool.not_true, Bool.false_eq_true, if_false, List.getLast?_nil, bind, Except.bind,
      pure, Except.pure]
    rcases Nat.eq_zero_or_pos response.missing with hnone | hsome
    · rw [hnone, Nat.add_zero, if_neg (Nat.lt_irrefl _), if_pos rfl, List.take_length]
    · rw [if_pos (Nat.lt_add_of_pos_right hsome), if_neg (Nat.pos_iff_ne_zero.1 hsome)]

/-- **What arrives of a response that breaks no rule.** -/
theorem answer_of_isPlain (h : response.IsPlain) : response.answer = .ok response.arrival := by
  have hhead := Head.ofTexts_eq_ok h.status (isLine_of_mem_headLines h)
    (Nat.le_trans (length_headLines_le response) (by decide))
  have htype : (response.headLines.map Head.fieldOf).lookup "content-type" =
      response.contentType.map fun text => Utf8.encode (MediaType.trimmed text.toList) := by
    rw [map_fieldOf_headLines]
    cases response.contentType <;> cases response.location <;> rfl
  have hlocation : (response.headLines.map Head.fieldOf).lookup "location" =
      response.location.map fun text => Utf8.encode (MediaType.trimmed text.toList) := by
    rw [map_fieldOf_headLines]
    cases response.contentType <;> cases response.location <;> rfl
  rw [answer_eq h.final (head_eq response ▸ hhead), page_eq h, text?_eq htype, text?_eq hlocation]
  rfl

end Response

end PageCensus
