import Mathlib.Data.List.Basic
import PageCensus.Proofs.Text.Trim
import PageCensus.UrlList

/-!
# What a list of addresses says

A list is read line by line, and what a line says depends on nothing but the line without the blanks
at its ends.  Two things follow.  The texts that can be an entry are known, and lists of them are
read back as they were written.  And there is more than one way to lay out a list: the blanks around
an entry, the characters that end a line, and lines that say nothing do not matter.

* `address?`, `ofText_eq` — what a line says, and what a text says line by line.
* `IsEntry`, `ofText_reads_entries` — what can be an entry; lists of entries, and no others, are
  read back.
* `ReadsLinewise`, `ofText_readsLinewise` — lists in two parts, and in different layouts.

**Lines that end differently.**  What is read are lines without a carriage return at their end, and
the last of them only if it is not empty.  Neither can be told any more once lines are trimmed and
those that say nothing are left out.  So the proofs are about what stands between line feeds, which
has no exception: every line feed divides it.
-/

set_option autoImplicit false

namespace PageCensus

/-! ## Lines -/

/-- No piece holds a character at which the text was cut. -/
theorem not_isCut_of_mem_pieces {isCut : Char → Bool} {text piece : List Char}
    (h : piece ∈ pieces isCut text) : ∀ c ∈ piece, isCut c = false := by
  induction text generalizing piece with
  | nil =>
    obtain rfl := List.mem_singleton.1 h
    exact fun c hc => absurd hc List.not_mem_nil
  | cons x rest ih =>
    obtain ⟨first, others, hpieces⟩ := exists_pieces_eq_cons isCut rest
    rw [hpieces] at ih
    rw [pieces_cons, hpieces, extendPieces] at h
    split at h
    · rcases List.mem_cons.1 h with rfl | h
      · exact fun c hc => absurd hc List.not_mem_nil
      · exact ih h
    · next hcut =>
      rcases List.mem_cons.1 h with rfl | h
      · exact List.forall_mem_cons.2 ⟨Bool.eq_false_iff.2 hcut, ih List.mem_cons_self⟩
      · exact ih (List.mem_cons_of_mem _ h)

theorem feed_not_mem_of_mem_lines {text line : List Char} (h : line ∈ lines text) :
    '\n' ∉ line := by
  intro hfeed
  have hcut := not_isCut_of_mem_pieces h '\n' hfeed
  exact absurd hcut (by decide)

theorem lines_eq_singleton {text : List Char} (h : '\n' ∉ text) : lines text = [text] :=
  pieces_eq_singleton fun _ hc => beq_eq_false_iff_ne.2 fun heq => h (heq ▸ hc)

/-- The lines of joined lines. -/
theorem lines_intercalate {texts : List (List Char)} (hne : texts ≠ [])
    (h : ∀ text ∈ texts, '\n' ∉ text) : lines (['\n'].intercalate texts) = texts := by
  induction texts with
  | nil => exact absurd rfl hne
  | cons text rest ih =>
    obtain ⟨htext, hrest⟩ := List.forall_mem_cons.1 h
    cases rest with
    | nil => rw [List.intercalate_singleton, lines_eq_singleton htext]
    | cons next rest =>
      rw [List.intercalate_cons_cons, List.append_assoc, List.singleton_append, lines_append,
        lines_eq_singleton htext, ih (List.cons_ne_nil _ _) hrest, List.singleton_append]

/-- **Induction by lines.**  What holds of a single line, and of a line in front of a text of which
it holds, holds of every text. -/
theorem line_induction {motive : List Char → Prop} (single : ∀ line, '\n' ∉ line → motive line)
    (cons : ∀ line rest, '\n' ∉ line → motive rest → motive (line ++ '\n' :: rest))
    (text : List Char) : motive text := by
  by_cases hfeed : '\n' ∈ text
  · obtain ⟨first, rest, htext, hfirst⟩ := List.eq_append_cons_of_mem hfeed
    have hlength : rest.length < text.length := by
      rw [htext, List.length_append, List.length_cons]
      omega
    rw [htext]
    exact cons first rest hfirst (line_induction single cons rest)
  · exact single text hfeed
termination_by text.length

namespace UrlList

/-! ## What a line says -/

/-- The address in a line, if there is one. -/
def address? (line : List Char) : Option String :=
  if isAddress (trimBlank line) then some (String.ofList (trimBlank line)) else none

/-- What a text says, line by line. -/
def addresses (text : List Char) : List String := (lines text).filterMap address?

/-- Only the trimmed line matters. -/
theorem address?_congr {line line' : List Char} (h : trimBlank line = trimBlank line') :
    address? line = address? line' := by
  rw [address?, address?, h]

theorem isBlank_return : ∀ c ∈ ['\r'], isBlank c = true := List.forall_mem_singleton.2 (by decide)

/-- A carriage return at the end of a line says nothing. -/
theorem address?_dropReturn (line : List Char) : address? (dropReturn line) = address? line := by
  rw [dropReturn]
  split
  · next hlast =>
    obtain ⟨front, hfront⟩ := List.getLast?_eq_some_iff.1 hlast
    rw [hfront, List.dropLast_concat]
    exact address?_congr (trimBlank_append_blanks isBlank_return front).symm
  · rfl

/-- **The addresses of a text are those of its lines.** -/
theorem ofText_eq (text : String) : ofText text = addresses text.toList := by
  have hread : ∀ texts : List (List Char),
      ((texts.map trimBlank).filter isAddress).map String.ofList = texts.filterMap address? := by
    intro texts
    induction texts with
    | nil => rfl
    | cons line rest ih =>
      rw [List.map_cons, List.filter_cons, List.filterMap_cons, address?, ← ih]
      split <;> rfl
  obtain ⟨first, others, hlines⟩ := exists_pieces_eq_cons (· == '\n') text.toList
  have hne : lines text.toList ≠ [] := by
    rw [lines, hlines]
    exact List.cons_ne_nil _ _
  have hlast : ((lines text.toList).getLast?.toList.filter (!·.isEmpty)).filterMap address? =
      [(lines text.toList).getLast hne].filterMap address? := by
    rw [List.getLast?_eq_some_getLast hne, Option.toList_some, List.filter_cons, List.filter_nil]
    split
    · rfl
    · next hempty =>
      rw [Bool.not_eq_true, Bool.not_eq_false', List.isEmpty_iff] at hempty
      rw [hempty]
      rfl
  have hothers : ((lines text.toList).dropLast.map dropReturn).filterMap address? =
      (lines text.toList).dropLast.filterMap address? := by
    rw [List.filterMap_map]
    exact List.filterMap_congr fun line _ => address?_dropReturn line
  rw [ofText, hread, readLines, List.filterMap_append, hothers, hlast, ← List.filterMap_append,
    List.dropLast_concat_getLast, addresses]

theorem addresses_append (a b : List Char) :
    addresses (a ++ '\n' :: b) = addresses a ++ addresses b := by
  rw [addresses, lines_append, List.filterMap_append, addresses, addresses]

theorem addresses_of_feed_not_mem {line : List Char} (h : '\n' ∉ line) :
    addresses line = (address? line).toList := by
  rw [addresses, lines_eq_singleton h, List.filterMap_cons, List.filterMap_nil]
  cases address? line with
  | none => rfl
  | some entry => rfl

/-! ## Entries -/

/-- **Whether a text can be an entry.** -/
structure IsEntry (entry : String) : Prop where
  /-- It has characters. -/
  ne_empty : entry ≠ ""
  /-- It is a single line. -/
  feed_not_mem : '\n' ∉ entry.toList
  /-- It does not begin with a blank. -/
  head? : ∀ c ∈ entry.toList.head?, isBlank c = false
  /-- It does not end with a blank. -/
  getLast? : ∀ c ∈ entry.toList.getLast?, isBlank c = false
  /-- It is no comment. -/
  not_comment : entry.toList.head? ≠ some '#'

/-- Addresses are texts with a front that is no number sign. -/
theorem isAddress_iff {text : List Char} :
    isAddress text = true ↔ text ≠ [] ∧ text.head? ≠ some '#' := by
  cases text with
  | nil => exact iff_of_false Bool.false_ne_true fun h => h.1 rfl
  | cons c rest =>
    rw [isAddress, bne_iff_ne, List.head?_cons]
    exact ⟨fun h => ⟨List.cons_ne_nil _ _, fun heq => h (Option.some.inj heq)⟩,
      fun h heq => h.2 (congrArg some heq)⟩

/-- A line that is an entry says itself. -/
theorem address?_of_isEntry {entry : String} (h : IsEntry entry) :
    address? entry.toList = some entry := by
  have hne : entry.toList ≠ [] := fun hnil => h.ne_empty (String.toList_eq_nil_iff.1 hnil)
  rw [address?, trimBlank_eq_self ⟨h.head?, h.getLast?⟩,
    if_pos (isAddress_iff.2 ⟨hne, h.not_comment⟩), String.ofList_toList]

/-- What a line says is an entry. -/
theorem isEntry_of_address? {line : List Char} {entry : String} (hline : '\n' ∉ line)
    (h : address? line = some entry) : IsEntry entry := by
  rw [address?] at h
  split at h
  · next haddress =>
    obtain ⟨hne, hcomment⟩ := isAddress_iff.1 haddress
    obtain ⟨hhead, hlast⟩ := isTrimmed_trimBlank line
    rw [← Option.some.inj h]
    refine ⟨fun hempty => hne ?_, ?_, ?_, ?_, ?_⟩
    · rw [← String.toList_ofList (l := trimBlank line), hempty]
      rfl
    all_goals rw [String.toList_ofList]
    · exact fun hfeed => hline (mem_of_mem_trimBlank hfeed)
    · exact hhead
    · exact hlast
    · exact hcomment
  · cases h

theorem isEntry_of_mem_ofText {text entry : String} (h : entry ∈ ofText text) : IsEntry entry := by
  rw [ofText_eq, addresses, List.mem_filterMap] at h
  obtain ⟨line, hline, haddress⟩ := h
  exact isEntry_of_address? (feed_not_mem_of_mem_lines hline) haddress

/-- Entries on a line each are read back. -/
theorem ofText_intercalate {entries : List String} (h : ∀ entry ∈ entries, IsEntry entry) :
    ofText ("\n".intercalate entries) = entries := by
  cases entries with
  | nil => rfl
  | cons first rest =>
    have hlines : lines ("\n".intercalate (first :: rest)).toList =
        (first :: rest).map String.toList := by
      rw [String.toList_intercalate]
      refine lines_intercalate (List.cons_ne_nil _ _) fun text htext => ?_
      obtain ⟨entry, hentry, rfl⟩ := List.mem_map.1 htext
      exact (h entry hentry).feed_not_mem
    rw [ofText_eq, addresses, hlines, List.filterMap_map]
    calc (first :: rest).filterMap (address? ∘ String.toList)
        = (first :: rest).filterMap some :=
          List.filterMap_congr fun entry hentry => address?_of_isEntry (h entry hentry)
      _ = first :: rest := List.filterMap_some

/-- **Exactly lists of entries are read back**, and whatever is read is such a list. -/
theorem ofText_reads_entries :
    (∀ entries : List String, ofText ("\n".intercalate entries) = entries ↔
      ∀ entry ∈ entries, IsEntry entry) ∧
    (∀ text : String, ∀ entry ∈ ofText text, IsEntry entry) ∧
    ∀ text : String, ofText ("\n".intercalate (ofText text)) = ofText text := by
  refine ⟨fun entries => ⟨fun h entry hentry => ?_, ofText_intercalate⟩,
    fun text entry => isEntry_of_mem_ofText,
    fun text => ofText_intercalate fun entry => isEntry_of_mem_ofText⟩
  rw [← h] at hentry
  exact isEntry_of_mem_ofText hentry

/-! ## Layouts -/

/-- A text with a carriage return in front of each line feed. -/
def withReturns (text : String) : String :=
  String.ofList (text.toList.flatMap fun c => if c = '\n' then ['\r', '\n'] else [c])

/-- Blanks that end no line. -/
def IsPadding (text : String) : Prop := ∀ c ∈ text.toList, isBlank c = true ∧ c ≠ '\n'

/-- Whether a line begins behind a text. -/
def BeginsLine (before : String) : Prop := ∀ c ∈ before.toList.getLast?, c = '\n'

/-- Whether a line ends in front of a text. -/
inductive EndsLine : String → Prop where
  /-- The last line may end with the text. -/
  | atEnd : EndsLine ""
  /-- A line ends with a line feed. -/
  | atFeed (rest : String) : EndsLine ("\n" ++ rest)
  /-- There may be a carriage return in front of it. -/
  | atReturn (rest : String) : EndsLine ("\r\n" ++ rest)

/-- Whether a line says nothing: the first character that is no blank, if there is one, begins a
comment. -/
def SaysNothing (line : String) : Prop := ∀ c ∈ line.toList.find? (fun c => !isBlank c), c = '#'

/-- **What it means to read line by line**, whatever the layout of the lines. -/
structure ReadsLinewise (read : String → List String) : Prop where
  /-- A line feed divides a text into two that are read independently. -/
  append : ∀ a b, read (a ++ "\n" ++ b) = read a ++ read b
  /-- Lines may end with a carriage return and a line feed. -/
  returns : ∀ text, read (withReturns text) = read text
  /-- The last line may end with a line feed. -/
  feed_at_end : ∀ text, read (text ++ "\n") = read text
  /-- It may end with both. -/
  return_at_end : ∀ text, read (text ++ "\r\n") = read text
  /-- There may be blanks at the beginning of each line. -/
  padding_front : ∀ before padding after, IsPadding padding → BeginsLine before →
    read (before ++ padding ++ after) = read (before ++ after)
  /-- There may be blanks at the end of each line. -/
  padding_back : ∀ before padding after, IsPadding padding → EndsLine after →
    read (before ++ padding ++ after) = read (before ++ after)
  /-- There may be a line that says nothing between any two lines. -/
  line_between : ∀ before line after, '\n' ∉ line.toList → SaysNothing line →
    read (before ++ "\n" ++ line ++ "\n" ++ after) = read (before ++ "\n" ++ after)

theorem ofText_append (a b : String) : ofText (a ++ "\n" ++ b) = ofText a ++ ofText b := by
  have htext : (a ++ "\n" ++ b).toList = a.toList ++ '\n' :: b.toList := by
    rw [String.toList_append, String.toList_append, List.append_assoc]
    rfl
  rw [ofText_eq, htext, addresses_append, ofText_eq, ofText_eq]

variable {padding : List Char}

/-- Blanks at the end of a text end its last line. -/
theorem addresses_append_padding (hblank : ∀ c ∈ padding, isBlank c = true)
    (hfeed : '\n' ∉ padding) (text : List Char) :
    addresses (text ++ padding) = addresses text := by
  induction text using line_induction with
  | single line hline =>
    have hboth : '\n' ∉ line ++ padding := by
      rw [List.mem_append]
      exact not_or.2 ⟨hline, hfeed⟩
    rw [addresses_of_feed_not_mem hboth, addresses_of_feed_not_mem hline,
      address?_congr (trimBlank_append_blanks hblank line)]
  | cons line rest hline ih =>
    rw [List.append_assoc, List.cons_append, addresses_append, addresses_append, ih]

/-- Blanks at the beginning of a text begin its first line. -/
theorem addresses_padding_append (hblank : ∀ c ∈ padding, isBlank c = true)
    (hfeed : '\n' ∉ padding) (text : List Char) :
    addresses (padding ++ text) = addresses text := by
  have hfirst : ∀ line, '\n' ∉ line → addresses (padding ++ line) = addresses line := by
    intro line hline
    have hboth : '\n' ∉ padding ++ line := by
      rw [List.mem_append]
      exact not_or.2 ⟨hfeed, hline⟩
    rw [addresses_of_feed_not_mem hboth, addresses_of_feed_not_mem hline,
      address?_congr (trimBlank_append hblank line)]
  induction text using line_induction with
  | single line hline => exact hfirst line hline
  | cons line rest hline _ =>
    rw [← List.append_assoc, addresses_append, addresses_append, hfirst line hline]

/-- A line that says nothing. -/
theorem addresses_of_saysNothing {line : String} (hfeed : '\n' ∉ line.toList)
    (h : SaysNothing line) : addresses line.toList = [] := by
  have haddress : isAddress (trimBlank line.toList) = false := by
    obtain ⟨front, back, hfront, -, htext⟩ := exists_eq_append_trimBlank line.toList
    have htrimmed := (isTrimmed_trimBlank line.toList).head?
    cases htrim : trimBlank line.toList with
    | nil => rfl
    | cons c rest =>
      -- the first character of the trimmed line is the first of the line that is no blank
      rw [htrim] at htext htrimmed
      have hc : isBlank c = false := htrimmed c rfl
      have hfind : line.toList.find? (fun c => !isBlank c) = some c := by
        rw [htext, List.append_assoc, List.find?_append,
          List.find?_eq_none.2 fun x hx => by simp [hfront x hx], Option.none_or,
          List.cons_append, List.find?_cons_of_pos (by simp [hc])]
      rw [h c hfind]
      rfl
  rw [addresses_of_feed_not_mem hfeed, address?, haddress]
  rfl

theorem addresses_withReturns (text : List Char) :
    addresses (text.flatMap fun c => if c = '\n' then ['\r', '\n'] else [c]) = addresses text := by
  have hline : ∀ line : List Char, '\n' ∉ line →
      (line.flatMap fun c => if c = '\n' then ['\r', '\n'] else [c]) = line := by
    intro line hline
    calc line.flatMap (fun c => if c = '\n' then ['\r', '\n'] else [c])
        = line.flatMap (fun c => [c]) := List.flatMap_congr fun c hc =>
          if_neg (ne_of_mem_of_not_mem hc hline)
      _ = line := List.flatMap_singleton' line
  induction text using line_induction with
  | single line h => rw [hline line h]
  | cons line rest h ih =>
    have hreturn := addresses_append_padding isBlank_return (by decide) line
    rw [List.flatMap_append, hline line h, List.flatMap_cons, if_pos rfl, List.cons_append,
      List.append_cons, List.singleton_append, addresses_append, addresses_append, ih, hreturn]

/-- Blanks at the end of a text do not matter. -/
theorem ofText_append_padding {padding : String} (h : IsPadding padding) (text : String) :
    ofText (text ++ padding) = ofText text := by
  rw [ofText_eq, String.toList_append, addresses_append_padding (fun c hc => (h c hc).1)
    (fun hfeed => (h '\n' hfeed).2 rfl), ofText_eq]

/-- Blanks at the beginning of a text do not matter either. -/
theorem ofText_padding_append {padding : String} (h : IsPadding padding) (text : String) :
    ofText (padding ++ text) = ofText text := by
  rw [ofText_eq, String.toList_append, addresses_padding_append (fun c hc => (h c hc).1)
    (fun hfeed => (h '\n' hfeed).2 rfl), ofText_eq]

theorem isPadding_return : IsPadding "\r" := by
  intro c hc
  obtain rfl := List.mem_singleton.1 (String.toList_singleton '\r' ▸ hc)
  decide

theorem IsPadding.append {a b : String} (ha : IsPadding a) (hb : IsPadding b) :
    IsPadding (a ++ b) := by
  intro c hc
  rw [String.toList_append, List.mem_append] at hc
  exact hc.elim (ha c) (hb c)

/-- A line begins with the text, or behind a line feed. -/
theorem BeginsLine.eq_empty_or {before : String} (h : BeginsLine before) :
    before = "" ∨ ∃ front, before = front ++ "\n" := by
  cases hlast : before.toList.getLast? with
  | none => exact Or.inl (String.toList_eq_nil_iff.1 (List.getLast?_eq_none_iff.1 hlast))
  | some c =>
    obtain ⟨front, hfront⟩ := List.getLast?_eq_some_iff.1 hlast
    refine Or.inr ⟨String.ofList front, String.toList_inj.1 ?_⟩
    rw [hfront, h c hlast, String.toList_append, String.toList_ofList]
    rfl

/-- **Lists are read line by line**, and their layout does not matter. -/
theorem ofText_readsLinewise : ReadsLinewise ofText := by
  have hempty : ofText "" = [] := rfl
  have hfeed : ∀ text, ofText (text ++ "\n") = ofText text := by
    intro text
    have htext := ofText_append text ""
    rwa [String.append_empty, hempty, List.append_nil] at htext
  have hreturn : ("\r\n" : String) = "\r" ++ "\n" := by decide
  constructor
  case append => exact ofText_append
  case returns =>
    intro text
    rw [ofText_eq, withReturns, String.toList_ofList, addresses_withReturns, ofText_eq]
  case feed_at_end => exact hfeed
  case return_at_end =>
    intro text
    rw [hreturn, ← String.append_assoc, hfeed, ofText_append_padding isPadding_return]
  case padding_front =>
    intro before padding after hpadding hbefore
    rcases hbefore.eq_empty_or with rfl | ⟨front, rfl⟩
    · rw [String.empty_append, String.empty_append, ofText_padding_append hpadding]
    · rw [String.append_assoc, ofText_append, ofText_append, ofText_padding_append hpadding]
  case padding_back =>
    intro before padding after hpadding hafter
    cases hafter with
    | atEnd => rw [String.append_empty, String.append_empty, ofText_append_padding hpadding]
    | atFeed rest =>
      rw [← String.append_assoc, ← String.append_assoc, ofText_append, ofText_append,
        ofText_append_padding hpadding]
    | atReturn rest =>
      -- the carriage return is one more blank at the end of the line
      have hboth : ofText (before ++ padding ++ "\r") = ofText before := by
        rw [String.append_assoc, ofText_append_padding (hpadding.append isPadding_return)]
      rw [hreturn, ← String.append_assoc, ← String.append_assoc, ← String.append_assoc,
        ← String.append_assoc, ofText_append, ofText_append, hboth,
        ofText_append_padding isPadding_return]
  case line_between =>
    intro before line after hline hnothing
    rw [ofText_append, ofText_append, ofText_append, ofText_eq line,
      addresses_of_saysNothing hline hnothing, List.append_nil]

end UrlList

end PageCensus
