import PageCensus.Proofs.Sink
import PageCensus.Proofs.Tally.Ranking
import PageCensus.Proofs.Tally.WordCount
import PageCensus.Proofs.Text.Digits
import PageCensus.Report

/-!
# Reading the lists of a report

The entries of a list stand in a report without quotes or escapes, and a key may hold whatever a
list is written with: commas, blanks, equals signs, digits, brackets.  A list can be read all the
same.  Behind an entry there is either a comma and a space or a bracket and the end of the line, in
any case a mark that is neither a digit nor a blank, and behind the mark a blank.  So the entry ends

* for a character, which is one character long, where its number ends;
* for a word, which holds no blank, one character in front of the next blank; its number is then all
  the digits at the end.

What is here:

* `Follows` — what stands behind an entry.
* `Legible`, `legible_char`, `legible_word` — entries are told from what stands behind them.
* `list_append_inj` — so are lists, which may have any text behind their line.
* `ReportLegible`, `report_legible` — lists and the summaries they stand in determine their entries.
-/

set_option autoImplicit false

namespace PageCensus

/-! ## One entry -/

theorem Entry.toList_text {κ : Type} [Token κ] (entry : Entry κ) :
    entry.text.toList =
      (Token.text entry.key).toList ++ '=' :: (toString entry.count).toList := by
  rw [Entry.text, String.toList_append, String.toList_append, List.append_assoc]
  rfl

namespace Report

/-- **What stands behind an entry**: a mark, which is neither a digit nor a blank, and then a
blank. -/
inductive Follows : List Char → Prop where
  | intro {mark blank : Char} (rest : List Char) (hdigit : mark.isDigit = false)
      (hmark : isBlank mark = false) (hblank : isBlank blank = true) :
      Follows (mark :: blank :: rest)

theorem Follows.comma (rest : List Char) : Follows (',' :: ' ' :: rest) :=
  .intro rest (by decide) (by decide) (by decide)

theorem Follows.bracket (rest : List Char) : Follows (']' :: '\n' :: rest) :=
  .intro rest (by decide) (by decide) (by decide)

theorem Follows.isDigit_head? {r : List Char} (h : Follows r) :
    ∀ c ∈ r.head?, c.isDigit = false := by
  cases h with
  | intro rest hdigit =>
    intro c hc
    rw [List.head?_cons, Option.mem_some_iff] at hc
    rwa [← hc]

/-- **Whether entries with certain keys can be told from what stands behind them.** -/
structure Legible {κ : Type} [Token κ] (p : κ → Prop) : Prop where
  /-- It is clear where an entry ends, and which entry it is. -/
  text_append_inj : ∀ {a b : Entry κ} {r s : List Char}, p a.key → p b.key → Follows r →
    Follows s → a.text.toList ++ r = b.text.toList ++ s → a = b ∧ r = s
  /-- An entry cannot be taken for the end of an empty list. -/
  text_append_ne : ∀ {a : Entry κ} {r s : List Char}, p a.key → Follows r →
    a.text.toList ++ r ≠ ']' :: '\n' :: s

/-- **Entries of characters** end where their number ends, whatever the character. -/
theorem legible_char : Legible fun _ : Char => True := by
  have htext : ∀ (a : Entry Char) (r : List Char),
      a.text.toList ++ r = a.key :: '=' :: ((toString a.count).toList ++ r) := by
    intro a r
    have hkey : (Token.text a.key).toList = [a.key] := String.toList_singleton a.key
    rw [Entry.toList_text, hkey]
    rfl
  constructor
  case text_append_inj =>
    rintro ⟨c, m⟩ ⟨d, n⟩ r s - - hr hs h
    rw [htext, htext] at h
    obtain ⟨rfl, h⟩ := List.cons.inj h
    obtain ⟨rfl, rfl⟩ := toString_append_inj hr.isDigit_head? hs.isDigit_head? (List.cons.inj h).2
    exact ⟨rfl, rfl⟩
  case text_append_ne =>
    rintro a r s - - h
    rw [htext] at h
    obtain ⟨-, h⟩ := List.cons.inj h
    exact absurd (List.cons.inj h).1 (by decide)

/-- Whether a word holds no blank.  It may be empty. -/
def HasNoBlank (word : String) : Prop := ∀ c ∈ word.toList, isBlank c = false

/-- Up to the mark behind it, an entry of such a word holds no blank. -/
theorem isBlank_of_mem_concat {a : Entry String} (h : HasNoBlank a.key) {mark : Char}
    (hmark : isBlank mark = false) {c : Char} (hc : c ∈ a.text.toList ++ [mark]) :
    isBlank c = false := by
  rw [Entry.toList_text, List.mem_append, List.mem_append, List.mem_cons,
    List.mem_singleton] at hc
  rcases hc with (hc | rfl | hc) | rfl
  · exact h c hc
  · decide
  · exact isBlank_of_isDigit (isDigit_of_mem_toString hc)
  · exact hmark

/-- The text in front of a blank is cut off in one way only if it holds none itself. -/
theorem append_blank_inj {front front' rest rest' : List Char} {blank blank' : Char}
    (hfront : ∀ c ∈ front, isBlank c = false) (hfront' : ∀ c ∈ front', isBlank c = false)
    (hblank : isBlank blank = true) (hblank' : isBlank blank' = true)
    (h : front ++ blank :: rest = front' ++ blank' :: rest') :
    front = front' ∧ blank :: rest = blank' :: rest' :=
  append_inj_of_head? (p := fun c => !isBlank c) (fun c hc => by rw [hfront c hc]; rfl)
    (fun c hc => by rw [hfront' c hc]; rfl) (by simpa using hblank) (by simpa using hblank') h

/-- **Entries of words** end in front of the last mark before a blank, and their number begins
behind the last character that is not a digit. -/
theorem legible_word : Legible HasNoBlank := by
  constructor
  case text_append_inj =>
    rintro ⟨v, m⟩ ⟨w, n⟩ r s hv hw hr hs h
    cases hr with | @intro mark blank rest _ hmark hblank =>
    cases hs with | @intro mark' blank' rest' _ hmark' hblank' =>
    rw [List.append_cons, List.append_cons _ _ (blank' :: rest')] at h
    obtain ⟨hentry, hrest⟩ := append_blank_inj (fun _ => isBlank_of_mem_concat hv hmark)
      (fun _ => isBlank_of_mem_concat hw hmark') hblank hblank' h
    obtain ⟨htext, hmarks⟩ := List.append_inj' hentry rfl
    rw [Entry.toList_text, Entry.toList_text, List.append_cons,
      List.append_cons _ _ (toString n).toList] at htext
    obtain ⟨hkey, rfl⟩ := append_toString_inj (by simp) (by simp) htext
    obtain rfl : v = w := String.toList_inj.1 (List.append_cancel_right hkey)
    rw [(List.cons.inj hmarks).1, hrest]
    exact ⟨rfl, rfl⟩
  case text_append_ne =>
    intro a r s ha hr h
    cases hr with | @intro mark blank rest _ hmark hblank =>
    rw [List.append_cons, ← List.singleton_append (x := ']')] at h
    have hbracket : ∀ c ∈ [']'], isBlank c = false := List.forall_mem_singleton.2 (by decide)
    obtain ⟨hentry, -⟩ := append_blank_inj (fun _ => isBlank_of_mem_concat ha hmark) hbracket
      hblank (by decide) h
    have hlength := congrArg List.length hentry
    rw [Entry.toList_text] at hlength
    simp only [List.length_append, List.length_cons, List.length_nil] at hlength
    omega

/-! ## A list of entries -/

section

variable {κ : Type} [Token κ]

/-- What stands in a list behind an entry that is followed by the given ones, and behind the
list. -/
def behind (rest : List Char) : List (Entry κ) → List Char
  | [] => ']' :: '\n' :: rest
  | entry :: entries => ',' :: ' ' :: (entry.text.toList ++ behind rest entries)

theorem follows_behind (rest : List Char) (entries : List (Entry κ)) :
    Follows (behind rest entries) := by
  cases entries with
  | nil => exact .bracket rest
  | cons entry entries => exact .comma _

theorem toList_list (entries : List (Entry κ)) :
    (list entries).toList =
      '[' :: ([',', ' '].intercalate (entries.map fun entry => entry.text.toList) ++ [']']) := by
  rw [list, String.toList_append, String.toList_append, String.toList_intercalate, List.map_map]
  rfl

theorem toList_list_nil (rest : List Char) :
    (list ([] : List (Entry κ))).toList ++ '\n' :: rest = '[' :: ']' :: '\n' :: rest := by
  rw [toList_list]
  rfl

theorem intercalate_append (entry : Entry κ) (entries : List (Entry κ)) (rest : List Char) :
    [',', ' '].intercalate ((entry :: entries).map fun entry => entry.text.toList) ++
      ']' :: '\n' :: rest = entry.text.toList ++ behind rest entries := by
  induction entries generalizing entry with
  | nil => rw [List.map_singleton, List.intercalate_singleton, behind]
  | cons next entries ih =>
    have hnext := ih next
    rw [List.map_cons] at hnext
    rw [List.map_cons, List.map_cons, List.intercalate_cons_cons, List.append_assoc,
      List.append_assoc, hnext]
    rfl

theorem toList_list_cons (entry : Entry κ) (entries : List (Entry κ)) (rest : List Char) :
    (list (entry :: entries)).toList ++ '\n' :: rest =
      '[' :: (entry.text.toList ++ behind rest entries) := by
  rw [toList_list, List.cons_append, List.append_assoc, ← intercalate_append]
  rfl

variable {p : κ → Prop}

theorem behind_inj (h : Legible p) {xs ys : List (Entry κ)} {r s : List Char}
    (hxs : ∀ x ∈ xs, p x.key) (hys : ∀ y ∈ ys, p y.key) (heq : behind r xs = behind s ys) :
    xs = ys ∧ r = s := by
  induction xs generalizing ys with
  | nil =>
    cases ys with
    | nil =>
      cases heq
      exact ⟨rfl, rfl⟩
    | cons y ys => exact absurd (List.cons.inj heq).1 (by decide)
  | cons x xs ih =>
    cases ys with
    | nil => exact absurd (List.cons.inj heq).1 (by decide)
    | cons y ys =>
      obtain ⟨hx, hxs⟩ := List.forall_mem_cons.1 hxs
      obtain ⟨hy, hys⟩ := List.forall_mem_cons.1 hys
      obtain ⟨hentry, hrest⟩ := h.text_append_inj hx hy (follows_behind r xs) (follows_behind s ys)
        (List.cons.inj (List.cons.inj heq).2).2
      obtain ⟨hentries, hbehind⟩ := ih hxs hys hrest
      exact ⟨by rw [hentry, hentries], hbehind⟩

/-- **A list is read in one way**, whatever stands behind the end of its line. -/
theorem list_append_inj (h : Legible p) {xs ys : List (Entry κ)} {r s : List Char}
    (hxs : ∀ x ∈ xs, p x.key) (hys : ∀ y ∈ ys, p y.key)
    (heq : (list xs).toList ++ '\n' :: r = (list ys).toList ++ '\n' :: s) : xs = ys ∧ r = s := by
  cases xs with
  | nil =>
    cases ys with
    | nil =>
      rw [toList_list_nil, toList_list_nil] at heq
      cases heq
      exact ⟨rfl, rfl⟩
    | cons y ys =>
      rw [toList_list_nil, toList_list_cons] at heq
      have hy := (List.forall_mem_cons.1 hys).1
      exact absurd (List.cons.inj heq).2.symm (h.text_append_ne hy (follows_behind s ys))
  | cons x xs =>
    cases ys with
    | nil =>
      rw [toList_list_nil, toList_list_cons] at heq
      have hx := (List.forall_mem_cons.1 hxs).1
      exact absurd (List.cons.inj heq).2 (h.text_append_ne hx (follows_behind r xs))
    | cons y ys =>
      -- two entries, as if they stood behind another
      rw [toList_list_cons, toList_list_cons] at heq
      have hbehind : behind r (x :: xs) = behind s (y :: ys) := by
        rw [behind, behind, (List.cons.inj heq).2]
      exact behind_inj h hxs hys hbehind

/-- **A list determines its entries.** -/
theorem list_inj (h : Legible p) {xs ys : List (Entry κ)} (hxs : ∀ x ∈ xs, p x.key)
    (hys : ∀ y ∈ ys, p y.key) (heq : list xs = list ys) : xs = ys :=
  (list_append_inj (r := []) (s := []) h hxs hys (by rw [heq])).1

end

/-! ## Lines and summaries -/

theorem toList_linesText_append (label text : String) (lines : List String) (r : String) :
    (Sink.linesText ((label ++ text) :: lines) ++ r).toList =
      label.toList ++ (text.toList ++ '\n' :: (Sink.linesText lines ++ r).toList) := by
  rw [Sink.linesText_cons]
  simp only [String.toList_append, List.append_assoc]
  rfl

/-- A line with a number after a label is read in one way. -/
theorem number_line_inj {label : String} {m n : Nat} {lines lines' : List String} {r s : String}
    (h : Sink.linesText ((label ++ toString m) :: lines) ++ r =
      Sink.linesText ((label ++ toString n) :: lines') ++ s) :
    m = n ∧ Sink.linesText lines ++ r = Sink.linesText lines' ++ s := by
  have htext := congrArg String.toList h
  rw [toList_linesText_append, toList_linesText_append] at htext
  obtain ⟨hnumber, hrest⟩ := toString_append_inj (by simp) (by simp)
    (List.append_cancel_left htext)
  exact ⟨hnumber, String.toList_inj.1 (List.cons.inj hrest).2⟩

/-- So is a line with a list after a label. -/
theorem list_line_inj {κ : Type} [Token κ] {p : κ → Prop} (hlegible : Legible p)
    {label : String} {xs ys : List (Entry κ)} {lines lines' : List String} {r s : String}
    (hxs : ∀ x ∈ xs, p x.key) (hys : ∀ y ∈ ys, p y.key)
    (h : Sink.linesText ((label ++ list xs) :: lines) ++ r =
      Sink.linesText ((label ++ list ys) :: lines') ++ s) :
    xs = ys ∧ Sink.linesText lines ++ r = Sink.linesText lines' ++ s := by
  have htext := congrArg String.toList h
  rw [toList_linesText_append, toList_linesText_append] at htext
  obtain ⟨hentries, hrest⟩ := list_append_inj hlegible hxs hys (List.append_cancel_left htext)
  exact ⟨hentries, String.toList_inj.1 hrest⟩

theorem mem_of_mem_top {κ : Type} [Token κ] {tally : Tally κ} {n : Nat} {entry : Entry κ}
    (h : entry ∈ tally.top n) : entry.key ∈ tally := by
  have hsome := ((Tally.isRanking_ranked tally).mem_iff entry).1 (List.mem_of_mem_take h)
  rw [Std.ExtTreeMap.mem_iff_isSome_getElem?, hsome]
  rfl

variable {a b : Census} {m n : Nat} {r s : String}

theorem hasNoBlank_of_mem_top (ha : ∀ word ∈ a.words, HasNoBlank word) :
    ∀ entry ∈ a.words.top m, HasNoBlank entry.key :=
  fun entry hentry => ha entry.key (mem_of_mem_top hentry)

theorem pageSummary_inj (ha : ∀ word ∈ a.words, HasNoBlank word)
    (hb : ∀ word ∈ b.words, HasNoBlank word)
    (h : Sink.linesText (pageSummary a m) ++ r = Sink.linesText (pageSummary b n) ++ s) :
    (a.chars.size = b.chars.size ∧ a.chars.top m = b.chars.top n) ∧
      (a.words.size = b.words.size ∧ a.words.top m = b.words.top n) ∧ r = s := by
  obtain ⟨hcharCount, h⟩ := number_line_inj h
  obtain ⟨hchars, h⟩ := list_line_inj legible_char (fun _ _ => trivial) (fun _ _ => trivial) h
  obtain ⟨hwordCount, h⟩ := number_line_inj h
  obtain ⟨hwords, h⟩ := list_line_inj legible_word (hasNoBlank_of_mem_top ha)
    (hasNoBlank_of_mem_top hb) h
  rw [Sink.linesText_nil, String.empty_append, String.empty_append] at h
  exact ⟨⟨hcharCount, hchars⟩, ⟨hwordCount, hwords⟩, h⟩

theorem globalSummary_inj (ha : ∀ word ∈ a.words, HasNoBlank word)
    (hb : ∀ word ∈ b.words, HasNoBlank word)
    (h : Sink.linesText (globalSummary a m) ++ r = Sink.linesText (globalSummary b n) ++ s) :
    a.chars.top m = b.chars.top n ∧ a.words.top m = b.words.top n ∧ r = s := by
  obtain ⟨hchars, h⟩ := list_line_inj legible_char (fun _ _ => trivial) (fun _ _ => trivial) h
  obtain ⟨hwords, h⟩ := list_line_inj legible_word (hasNoBlank_of_mem_top ha)
    (hasNoBlank_of_mem_top hb) h
  rw [Sink.linesText_nil, String.empty_append, String.empty_append] at h
  exact ⟨hchars, hwords, h⟩

/-! ## What a report says -/

/-- **What a report says of its entries can be told from its text**, in which nothing is escaped. -/
structure ReportLegible : Prop where
  /-- Lists of characters are the same only if their entries are, whatever the characters. -/
  chars : ∀ xs ys : List (Entry Char), list xs = list ys → xs = ys
  /-- So are lists of words, as long as no word holds a blank. -/
  words : ∀ xs ys : List (Entry String), (∀ x ∈ xs, HasNoBlank x.key) →
    (∀ y ∈ ys, HasNoBlank y.key) → list xs = list ys → xs = ys
  /-- No word that is counted does. -/
  hasNoBlank : ∀ body, ∀ word ∈ countWords body, HasNoBlank word
  /-- The summary of a page shows the number of its characters and of its words and the first
  entries of each of the two, and it is clear where it ends. -/
  page : ∀ (body body' : String) (m n : Nat) (r s : String),
    Sink.linesText (pageSummary (.ofText body) m) ++ r =
      Sink.linesText (pageSummary (.ofText body') n) ++ s →
    ((countChars body).size = (countChars body').size ∧
        (countChars body).top m = (countChars body').top n) ∧
      ((countWords body).size = (countWords body').size ∧
        (countWords body).top m = (countWords body').top n) ∧ r = s
  /-- The summary of all pages shows the first entries of all of them together. -/
  allPages : ∀ (bodies bodies' : List String) (m n : Nat) (r s : String),
    Sink.linesText (globalSummary (.ofTexts bodies) m) ++ r =
      Sink.linesText (globalSummary (.ofTexts bodies') n) ++ s →
    (Census.ofTexts bodies).chars.top m = (Census.ofTexts bodies').chars.top n ∧
      (Census.ofTexts bodies).words.top m = (Census.ofTexts bodies').words.top n ∧ r = s

theorem hasNoBlank_of_mem_countWords {body word : String} (h : word ∈ countWords body) :
    HasNoBlank word :=
  (isWord_of_mem_words (mem_countWords.1 h)).not_blank

/-- **Nothing is lost by leaving out quotes and escapes.** -/
theorem report_legible : ReportLegible := by
  constructor
  case chars => exact fun xs ys => list_inj legible_char (fun _ _ => trivial) (fun _ _ => trivial)
  case words => exact fun xs ys => list_inj legible_word
  case hasNoBlank => exact fun body word => hasNoBlank_of_mem_countWords
  case page =>
    intro body body' m n r s h
    have hwords : ∀ body, ∀ word ∈ (Census.ofText body).words, HasNoBlank word :=
      fun _ _ => hasNoBlank_of_mem_countWords
    exact pageSummary_inj (hwords body) (hwords body') h
  case allPages =>
    intro bodies bodies' m n r s h
    have hwords : ∀ bodies, ∀ word ∈ (Census.ofTexts bodies).words, HasNoBlank word :=
      fun _ _ hword => (Census.isWord_of_mem_words_ofTexts hword).not_blank
    exact globalSummary_inj (hwords bodies) (hwords bodies') h

/-- A word with a blank in it could be taken for two entries. -/
example : list [⟨"a=1, b", 2⟩] = list [⟨"a", 1⟩, ⟨"b", 2⟩] := by decide

end Report
end PageCensus
