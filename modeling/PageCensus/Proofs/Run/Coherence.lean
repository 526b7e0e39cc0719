import PageCensus.Proofs.Run.Complete
import PageCensus.Proofs.Tally.Weight

/-!
# The two tallies of a census agree

Characters and words are counted by two functions that know nothing of each other, and the results
are merged key by key, each kind for itself.  Still one tally can be checked against the other:
every character that is not blank is in exactly one word, and whatever keeps two words apart is a
blank or the end of a page.

* `Census.Coherent` — what it means that the two tallies of a census agree.
* `Census.coherent_ofTexts` — those of any texts do.
* `run_coherent` — so do those of a run, and those of each of its pages.
-/

set_option autoImplicit false

namespace PageCensus
namespace Census

/-- **The two tallies of a census agree** as those of so many texts. -/
structure Coherent (census : Census) (count : Nat) : Prop where
  /-- A character that is not blank was seen as often as the words hold it, each word taken as often
  as it was seen. -/
  count_eq : ∀ c, isBlank c = false →
    census.chars.count c = census.words.weighted fun word => word.toList.count c
  /-- The words are not empty and hold no blanks. -/
  isWord : ∀ word ∈ census.words, IsWord word.toList
  /-- Between two words of a text there was a blank. -/
  total_words_le : census.words.total ≤
    (census.chars.weighted fun c => if isBlank c then 1 else 0) + count

theorem charTokens_cons (text : String) (texts : List String) :
    charTokens (text :: texts) = text.toList ++ charTokens texts := List.flatMap_cons

theorem wordTokens_cons (text : String) (texts : List String) :
    wordTokens (text :: texts) =
      (PageCensus.words text.toList).map String.ofList ++ wordTokens texts := List.flatMap_cons

/-- The words of several texts hold the characters of the texts. -/
theorem sum_count_wordTokens {c : Char} (h : isBlank c = false) (texts : List String) :
    ((wordTokens texts).map fun word => word.toList.count c).sum = (charTokens texts).count c := by
  induction texts with
  | nil => rfl
  | cons text texts ih =>
    have htext : (((PageCensus.words text.toList).map String.ofList).map
        fun word => word.toList.count c).sum = text.toList.count c := by
      rw [List.map_map, ← sum_count_words h]
      simp only [Function.comp_def, String.toList_ofList]
    rw [wordTokens_cons, List.map_append, List.sum_append, htext, ih, charTokens_cons,
      List.count_append]

/-- Each text adds at most one word more than it adds blanks. -/
theorem length_wordTokens_le_countP (texts : List String) :
    (wordTokens texts).length ≤ (charTokens texts).countP isBlank + texts.length := by
  induction texts with
  | nil => exact Nat.le_refl 0
  | cons text texts ih =>
    have htext := length_words_le_countP text.toList
    rw [wordTokens_cons, List.length_append, List.length_map, charTokens_cons, List.countP_append,
      List.length_cons]
    omega

/-- **The two tallies of any texts agree.** -/
theorem coherent_ofTexts (texts : List String) : Coherent (ofTexts texts) texts.length := by
  constructor
  case count_eq =>
    intro c hc
    show (Tally.ofTokens (charTokens texts)).count c =
      (Tally.ofTokens (wordTokens texts)).weighted fun word => word.toList.count c
    rw [Tally.count_ofTokens, Tally.weighted_ofTokens, sum_count_wordTokens hc]
  case isWord => exact fun word => isWord_of_mem_words_ofTexts
  case total_words_le =>
    show (Tally.ofTokens (wordTokens texts)).total ≤
      ((Tally.ofTokens (charTokens texts)).weighted fun c => if isBlank c then 1 else 0) + _
    have hblanks : ((charTokens texts).map fun c => if isBlank c then 1 else 0).sum =
        (charTokens texts).countP isBlank := by
      simp [List.countP_eq_length_filter, List.sum_map_ite]
    rw [Tally.total_ofTokens, Tally.weighted_ofTokens, hblanks]
    exact length_wordTokens_le_countP texts

end Census

/-- **The two tallies of a run agree**, and so do those of each of its pages: as long as the pages
have fewer characters than a count can hold and the output takes everything, the run ends well, with
tallies that agree as those of so many texts as pages were fetched. -/
theorem run_coherent {pages : List Page} (h : totalLength (texts pages) < countLimit)
    {world : World} (hroom : world.stdout.room = none) (config : Config) (elapsed : Duration) :
    ∃ summary world', run config pages elapsed world = .ok summary world' ∧
      summary.progress.census.Coherent (fetchedPages pages).length ∧
      ∀ body ∈ texts pages, (Census.ofText body).Coherent 1 := by
  refine ⟨_, _, run_of_room_none h hroom config elapsed, ?_, fun body _ => ?_⟩
  · rw [length_fetchedPages]
    exact Census.coherent_ofTexts (texts pages)
  · rw [Census.ofText_eq_ofTexts]
    exact Census.coherent_ofTexts [body]

/-- A page that starts and ends with blanks, a page without any, and a skipped one in between. -/
theorem run_coherent_of_blank_ends :
    let pages : List Page := [⟨"http://a/", .ok " to\nbe  "⟩,
      ⟨"b", .error (.invalidUrl "b" .relativeWithoutBase)⟩, ⟨"http://c/", .ok "be"⟩]
    totalLength (texts pages) < countLimit ∧ (World.start .unlimited .fresh).stdout.room = none ∧
      ∃ summary world', run {} pages ⟨0, 0⟩ (.start .unlimited .fresh) = .ok summary world' ∧
        summary.progress.census.Coherent (fetchedPages pages).length ∧
        ∀ body ∈ texts pages, (Census.ofText body).Coherent 1 := by
  intro pages
  have h : totalLength (texts pages) < countLimit := by decide
  have hroom : (World.start .unlimited .fresh).stdout.room = none := rfl
  exact ⟨h, hroom, run_coherent h hroom {} ⟨0, 0⟩⟩

end PageCensus
