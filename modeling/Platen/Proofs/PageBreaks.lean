import Platen.Fill
import Platen.Proofs.Kept
import Platen.Proofs.Memory

/-!
# Page breaks

With automatic form feeds every page is meant to end with a page break.  The break is left out if
the output ends with one already, and it is the whole output that is looked at: a page on which
nothing is printed gets no break of its own after another page, nor at the start if the last
parameter of the preamble happens to be the page break.  This module states the output exactly.

Main results:

- Theorem `Job.frame_eq`: the output is the preamble, the pages with their breaks, and the closing
  command.
- Theorem `Job.printed_eq_terminated_iff`: every page has a break of its own exactly if no page with
  nothing on it comes after a break.
- Theorem `Device.endsWith_preamble_iff`: the preambles that end with the page break.
- Theorem `Job.fill_pageBreaks`: what this means for a report that is filled.
-/

namespace Platen

/-! ## Texts that end with the page break -/

namespace Device

theorem toList_pageBreak (device : Device) : device.pageBreak.toList = [formFeed] := by
  rw [pageBreak, String.singleton_eq_ofList, String.toList_ofList]

/-- A text ends with the page break exactly if its last character is the form feed. -/
theorem endsWith_pageBreak_iff (device : Device) (out : String) :
    Text.endsWith out device.pageBreak = true ↔ out.toList.getLast? = some formFeed := by
  rw [Text.endsWith, toList_pageBreak, List.isSuffixOf_iff_suffix,
    List.singleton_suffix_iff_getLast?_eq_some]

/-- No line break contains the form feed, and none is empty. -/
theorem lineBreak_spec (device : Device) (format : PageFormat) :
    formFeed ∉ (device.lineBreak format).toList ∧ device.lineBreak format ≠ "" := by
  cases device with
  | plain =>
      show formFeed ∉ "\n".toList ∧ "\n" ≠ ""
      exact ⟨by decide, by decide⟩
  | escp =>
      cases hauto : format.autoLineFeed with
      | true =>
          simp only [lineBreak, hauto, if_true]
          exact ⟨by decide, by decide⟩
      | false =>
          simp only [lineBreak, hauto, Bool.false_eq_true, if_false]
          exact ⟨by decide, by decide⟩

theorem formFeed_notMem_closing (device : Device) : formFeed ∉ device.closing.toList := by
  cases device <;> decide

/-- The last number among the commands of a preamble that end with one, if no other command comes
after it. -/
def lastParameter? (format : PageFormat) : Option Nat :=
  format.rightMargin.or (format.leftMargin.or
    (if format.pitch.isSome then none else format.bottomMargin.or format.pageLength))

/-- A parameter is written as the form feed exactly if it is the number of the form feed. -/
theorem parameter_eq_formFeed_iff (n : Nat) : parameter n = formFeed ↔ n = 12 := by
  have hsmall : ∀ m : Fin 128, Char.ofNat m = formFeed ↔ m = 12 := by
    decide
  have hmin := hsmall ⟨min n 127, by omega⟩
  rw [parameter, hmin, Fin.ext_iff]
  show min n 127 = 12 ↔ n = 12
  omega

/-- What a command with one number adds at the end of commands. -/
theorem getLast?_numberCommand (commands : List Char) (letter : Char) (n : Option Nat) :
    (commands ++ numberCommand letter n).getLast? =
      (n.map parameter).or commands.getLast? := by
  cases n <;> simp [numberCommand]

/-- What a command without a number adds at the end of commands. -/
theorem getLast?_command {α : Type} (commands : List Char) (command : α → List Char)
    (setting : Option α) (hsetting : ∀ a, command a ≠ []) :
    (commands ++ (setting.map command).getD []).getLast? =
      (setting.bind fun a => (command a).getLast?).or commands.getLast? := by
  cases setting with
  | none => simp
  | some a =>
      rcases Option.ne_none_iff_exists'.mp (mt List.getLast?_eq_none_iff.mp (hsetting a)) with
        ⟨c, hc⟩
      simp [hc]

/-- A number that may be given comes before what there is without it. -/
theorem or_parameter_iff (n : Option Nat) {last : Option Char} {parameter? : Option Nat}
    (hlast : last = some formFeed ↔ parameter? = some 12) :
    (n.map parameter).or last = some formFeed ↔ n.or parameter? = some 12 := by
  cases n with
  | none => simpa using hlast
  | some n => simp [parameter_eq_formFeed_iff]

/-- A preamble ends with the page break exactly if its last parameter is the number of the form
feed. -/
theorem endsWith_preamble_iff (device : Device) (format : PageFormat) :
    Text.endsWith (device.preamble format) device.pageBreak = true ↔
      device = .escp ∧ lastParameter? format = some 12 := by
  rw [endsWith_pageBreak_iff]
  cases device with
  | plain => simp [preamble]
  | escp =>
      have hspacing : (format.lineSpacing.bind fun spacing => (spacingCommand spacing).getLast?).or
          reset.getLast? ≠ some formFeed := by
        rcases format.lineSpacing with _ | _ | _ <;> decide
      simp only [preamble, String.toList_ofList, escpPreamble, getLast?_numberCommand, true_and]
      rw [getLast?_command _ _ _ (by rintro (_ | _ | _) <;> decide)]
      simp only [getLast?_numberCommand]
      rw [getLast?_command _ _ _ (by rintro (_ | _) <;> decide), lastParameter?]
      refine or_parameter_iff _ (or_parameter_iff _ ?_)
      cases format.pitch with
      | some pitch =>
          obtain ⟨letter, hletter, hne⟩ : ∃ letter, (pitchCommand pitch).getLast? = some letter ∧
              letter ≠ formFeed := by
            cases pitch <;> exact ⟨_, rfl, by decide⟩
          simpa [hletter] using hne
      | none =>
          have hlength : (format.pageLength.map parameter).or
              ((format.lineSpacing.bind fun spacing => (spacingCommand spacing).getLast?).or
                reset.getLast?) = some formFeed ↔ format.pageLength = some 12 := by
            rw [or_parameter_iff _ (iff_of_false hspacing (Option.some_ne_none 12).symm),
              Option.or_none]
          exact or_parameter_iff _ hlength

end Device

namespace Job

variable {device : Device} {format : PageFormat}

/-! ## Pages and their breaks -/

/-- The text of a page: its rendered lines with line breaks between them. -/
def pageText (device : Device) (format : PageFormat) (texts : List String) : String :=
  String.intercalate (device.lineBreak format) texts

/-- The text of pages with a break after each of them. -/
def terminated (device : Device) (format : PageFormat) (pages : List (List String)) : String :=
  String.join (pages.map fun texts => pageText device format texts ++ device.pageBreak)

/-- The text of pages with their breaks.  A page on which nothing is printed gets none if the output
before it has ended with one. -/
def printed (device : Device) (format : PageFormat) (ended : Bool) : List (List String) → String
  | [] => ""
  | texts :: rest =>
      pageText device format texts ++
        (if pageText device format texts = "" ∧ ended = true then "" else device.pageBreak) ++
        printed device format true rest

/-- The number of pages without a break of their own. -/
def unbroken (device : Device) (format : PageFormat) (ended : Bool) : List (List String) → Nat
  | [] => 0
  | texts :: rest =>
      (if pageText device format texts = "" ∧ ended = true then 1 else 0) +
        unbroken device format true rest

/-- Nothing is printed on a page exactly if it has no line, or a single empty one. -/
theorem pageText_eq_empty_iff (device : Device) (format : PageFormat) (texts : List String) :
    pageText device format texts = "" ↔ texts = [] ∨ texts = [""] := by
  cases texts with
  | nil => simp [pageText]
  | cons text rest =>
      cases rest with
      | nil => simp [pageText]
      | cons next rest =>
          simp [pageText, String.append_eq_empty_iff, (device.lineBreak_spec format).2]

/-- The text of a page contains no form feed if none of its lines does. -/
theorem formFeed_notMem_pageText {texts : List String}
    (hclean : ∀ text ∈ texts, Device.formFeed ∉ text.toList) :
    Device.formFeed ∉ (pageText device format texts).toList := by
  induction texts with
  | nil => simp [pageText]
  | cons text rest ih =>
      rcases List.forall_mem_cons.mp hclean with ⟨htext, hrest⟩
      cases rest with
      | nil => simpa [pageText] using htext
      | cons next rest =>
          have hlater := ih hrest
          rw [pageText] at hlater ⊢
          rw [String.intercalate_cons_cons, String.toList_append, String.toList_append,
            List.mem_append, List.mem_append]
          rintro ((hfirst | hbreak) | hnext)
          · exact htext hfirst
          · exact (device.lineBreak_spec format).1 hbreak
          · exact hlater hnext

/-- Behind a text without form feeds the output ends with a page break only if that text is empty
and the output ended with one before. -/
theorem endsWith_append {text : String} (hclean : Device.formFeed ∉ text.toList) (out : String) :
    Text.endsWith (out ++ text) device.pageBreak = true ↔
      text = "" ∧ Text.endsWith out device.pageBreak = true := by
  rw [Device.endsWith_pageBreak_iff, Device.endsWith_pageBreak_iff, String.toList_append,
    List.getLast?_append]
  by_cases htext : text = ""
  · simp [htext]
  · have hne : text.toList ≠ [] := fun hnil => htext (String.toList_eq_nil_iff.mp hnil)
    rw [List.getLast?_eq_some_getLast hne]
    have hlast : text.toList.getLast hne ≠ Device.formFeed := by
      intro heq
      exact hclean (heq ▸ List.getLast_mem hne)
    simp [htext, hlast]

/-- The end of a page leaves the output with a page break at its end. -/
theorem endsWith_endPage (hauto : format.autoFormFeed = true) (out : String) :
    Text.endsWith (endPage device format out) device.pageBreak = true := by
  unfold endPage
  rw [hauto]
  simp only [Bool.not_true, Bool.false_eq_true, if_false]
  split
  · assumption
  · rw [Device.endsWith_pageBreak_iff, String.toList_append, Device.toList_pageBreak]
    simp

/-- A page without form feeds in its text adds this text to the output, and a page break unless it
is empty and comes after one. -/
theorem endPage_append (hauto : format.autoFormFeed = true) {text : String}
    (hclean : Device.formFeed ∉ text.toList) (out : String) :
    endPage device format (out ++ text) = out ++ (text ++
      if text = "" ∧ Text.endsWith out device.pageBreak = true then "" else device.pageBreak) := by
  have hends := @endsWith_append device text hclean out
  unfold endPage
  rw [hauto]
  simp only [Bool.not_true, Bool.false_eq_true, if_false]
  split
  · rename_i hended
    rw [if_pos (hends.mp hended), String.append_empty]
  · rename_i hopen
    rw [if_neg (fun hblank => hopen (hends.mpr hblank)), String.append_assoc]

/-- The output after pages: the text before them and the pages with their breaks. -/
theorem foldl_endPage (hauto : format.autoFormFeed = true) {pages : List (List String)}
    (hclean : ∀ texts ∈ pages, ∀ text ∈ texts, Device.formFeed ∉ text.toList) (out : String) :
    pages.foldl (fun out texts => endPage device format
        (out ++ String.intercalate (device.lineBreak format) texts)) out =
      out ++ printed device format (Text.endsWith out device.pageBreak) pages := by
  induction pages generalizing out with
  | nil => simp [printed]
  | cons texts rest ih =>
      rcases List.forall_mem_cons.mp hclean with ⟨htexts, hrest⟩
      have htext : Device.formFeed ∉ (pageText device format texts).toList :=
        formFeed_notMem_pageText htexts
      -- from the second page on the output always ends with a page break
      have hpage := @endPage_append device format hauto _ htext out
      have hended := @endsWith_endPage device format hauto (out ++ pageText device format texts)
      rw [List.foldl_cons, ← pageText, ih hrest, hended, hpage, printed, String.append_assoc,
        String.append_assoc]

/-- The output is the preamble, the pages with their breaks, and the closing command: after a page
the last break is never missing. -/
theorem frame_eq (hauto : format.autoFormFeed = true) {pages : List (List String)}
    (hpages : pages ≠ [])
    (hclean : ∀ texts ∈ pages, ∀ text ∈ texts, Device.formFeed ∉ text.toList) :
    frame device format pages = device.preamble format ++
      printed device format (Text.endsWith (device.preamble format) device.pageBreak) pages ++
      device.closing := by
  let step := fun (out : String) (texts : List String) => endPage device format
    (out ++ String.intercalate (device.lineBreak format) texts)
  have hended : Text.endsWith (pages.foldl step (device.preamble format)) device.pageBreak =
      true := by
    obtain ⟨front, last, rfl⟩ := List.eq_nil_or_concat pages |>.resolve_left hpages
    rw [List.concat_eq_append, List.foldl_append]
    exact endsWith_endPage hauto _
  have hlast : endPage device format (pages.foldl step (device.preamble format)) =
      pages.foldl step (device.preamble format) := by
    simp [endPage, hauto, hended]
  have hfold := @foldl_endPage device format hauto pages hclean (device.preamble format)
  simp only [frame, hauto, if_true]
  rw [← hfold]
  exact congrArg (· ++ device.closing) hlast

/-! ## Missing breaks -/

/-- Every page without a break of its own makes the text one character shorter. -/
theorem length_printed (ended : Bool) (pages : List (List String)) :
    (printed device format ended pages).length + unbroken device format ended pages =
      (terminated device format pages).length := by
  have hbreak : device.pageBreak.length = 1 := by
    rw [← String.length_toList, Device.toList_pageBreak]
    rfl
  induction pages generalizing ended with
  | nil => simp [printed, unbroken, terminated]
  | cons texts rest ih =>
      have hrest := ih true
      simp only [terminated] at hrest
      simp only [printed, unbroken, terminated, List.map_cons, String.join_cons,
        String.length_append, ← hrest, hbreak]
      split
      · simp only [String.length_empty]
        omega
      · rw [hbreak]
        omega

/-- If no line contains a form feed, there is one for every page with a break of its own. -/
theorem count_printed (ended : Bool) {pages : List (List String)}
    (hclean : ∀ texts ∈ pages, ∀ text ∈ texts, Device.formFeed ∉ text.toList) :
    (printed device format ended pages).toList.count Device.formFeed +
      unbroken device format ended pages = pages.length := by
  induction pages generalizing ended with
  | nil => simp [printed, unbroken]
  | cons texts rest ih =>
      rcases List.forall_mem_cons.mp hclean with ⟨htexts, hrest⟩
      have hlater := ih true hrest
      have htext : (pageText device format texts).toList.count Device.formFeed = 0 :=
        List.count_eq_zero.mpr (formFeed_notMem_pageText htexts)
      simp only [printed, unbroken, String.toList_append, List.count_append, htext,
        List.length_cons]
      split
      · simp only [String.toList_empty, List.count_nil]
        omega
      · rw [Device.toList_pageBreak, List.count_singleton_self]
        omega

/-- Every page has a break of its own exactly if something is printed on each page after the first,
and on the first one too unless the output does not end with a break before it. -/
theorem unbroken_eq_zero_iff (ended : Bool) (pages : List (List String)) :
    unbroken device format ended pages = 0 ↔
      (∀ texts ∈ pages.tail, pageText device format texts ≠ "") ∧
        (ended = true → ∀ texts ∈ pages.head?, pageText device format texts ≠ "") := by
  induction pages generalizing ended with
  | nil => simp [unbroken]
  | cons texts rest ih =>
      have hrest : unbroken device format true rest = 0 ↔
          ∀ later ∈ rest, pageText device format later ≠ "" := by
        rw [ih true]
        cases rest with
        | nil => simp
        | cons next rest => simp [and_comm]
      rw [unbroken, Nat.add_eq_zero_iff, hrest]
      by_cases hblank : pageText device format texts = "" ∧ ended = true
      · rw [if_pos hblank]
        simp [hblank]
      · rw [if_neg hblank]
        simp only [true_and, List.tail_cons, List.head?_cons, Option.mem_def, Option.some.injEq,
          forall_eq']
        exact (and_iff_left fun hended htext => hblank ⟨htext, hended⟩).symm

/-- The pages are printed as if each had a break of its own exactly if each has. -/
theorem printed_eq_terminated_iff (ended : Bool) (pages : List (List String)) :
    printed device format ended pages = terminated device format pages ↔
      unbroken device format ended pages = 0 := by
  have hlength := @length_printed device format ended pages
  constructor
  · intro heq
    rw [heq] at hlength
    omega
  · intro hnone
    clear hlength
    induction pages generalizing ended with
    | nil => rfl
    | cons texts rest ih =>
        rw [unbroken, Nat.add_eq_zero_iff] at hnone
        rcases hnone with ⟨hfirst, hrest⟩
        have hopen : ¬(pageText device format texts = "" ∧ ended = true) := by
          intro hblank
          rw [if_pos hblank] at hfirst
          contradiction
        have hlater := ih true hrest
        rw [terminated] at hlater
        rw [printed, if_neg hopen, hlater, terminated, List.map_cons, String.join_cons]

/-! ## Filling a report -/

/-- Every page is rendered. -/
theorem length_renderPages {job : Job} {sources : List Source} {styles : Styles}
    {pages : List Page} {rendered : List (List String)} {memory after : Memory}
    (hrender : (job.renderPages sources styles pages).run.run memory = (.ok rendered, after)) :
    rendered.length = pages.length := by
  induction pages generalizing styles rendered memory with
  | nil =>
      cases hrender
      rfl
  | cons page rest ih =>
      rcases run_bind_ok hrender with ⟨⟨texts, styles'⟩, middle, -, hrest⟩
      rcases run_bind_ok hrest with ⟨later, last, hlater, hresult⟩
      cases hresult
      rw [List.length_cons, List.length_cons, ih hlater]

/-- The report that is printed has the page format of the report that is filled. -/
theorem format_working {job : Job} {report done : Report} {sources : List Source} {memory : Memory}
    (hworking : job.working report sources = (.ok done, memory)) : done.format = report.format := by
  unfold working at hworking
  split at hworking
  · rcases Prod.mk.inj hworking with ⟨hresult, -⟩
    cases houtcome : (report.expand job.resolver (activeSources sources) []).outcome with
    | error e =>
        rw [houtcome] at hresult
        contradiction
    | ok _ =>
        rw [houtcome] at hresult
        cases hresult
        exact Report.format_expandFirst ..
  · cases hworking
    rfl

/-- A report that is filled is expanded, rendered and framed. -/
theorem eq_frame_of_fill {job : Job} {report : Report} {sources : List Source} {out : String}
    (hfill : job.fill report sources = .ok out) :
    ∃ (done : Report) (memory after : Memory) (pages : List (List String)),
      job.working report sources = (.ok done, memory) ∧
      (job.renderPages (activeSources sources) {} done.pages).run.run memory = (.ok pages, after) ∧
      out = frame job.device report.format pages := by
  unfold fill at hfill
  split at hfill
  · contradiction
  · rename_i done memory hworking
    split at hfill
    · contradiction
    · rename_i pages after hrender
      refine ⟨done, memory, after, pages, hworking, hrender, ?_⟩
      rw [← format_working hworking]
      exact (Except.ok.inj hfill).symm

/-- What a filled report looks like if its pages end with page breaks and no line contains one.  The
output is the preamble, the pages with their breaks, and the closing command.  Every page has a
break of its own exactly if something is printed on every page after the first, and on the first one
too if the preamble ends with a break; the pages on which nothing is printed there are the ones that
are missing from the number of breaks. -/
theorem fill_pageBreaks {job : Job} {report : Report} {sources : List Source} {out : String}
    (hauto : report.format.autoFormFeed = true) (hfill : job.fill report sources = .ok out) :
    ∃ (done : Report) (memory after : Memory) (pages : List (List String)),
      job.working report sources = (.ok done, memory) ∧
      (job.renderPages (activeSources sources) {} done.pages).run.run memory = (.ok pages, after) ∧
      pages.length = done.pages.length ∧
      (done.pages ≠ [] →
        (∀ texts ∈ pages, ∀ text ∈ texts, Device.formFeed ∉ text.toList) →
        let ended := Text.endsWith (job.device.preamble report.format) job.device.pageBreak
        out = job.device.preamble report.format ++
          printed job.device report.format ended pages ++ job.device.closing ∧
        (out = job.device.preamble report.format ++
            terminated job.device report.format pages ++ job.device.closing ↔
          (∀ texts ∈ pages.tail, pageText job.device report.format texts ≠ "") ∧
          (ended = true → ∀ texts ∈ pages.head?, pageText job.device report.format texts ≠ "")) ∧
        (printed job.device report.format ended pages ++ job.device.closing).toList.count
            Device.formFeed + unbroken job.device report.format ended pages =
          done.pages.length) := by
  rcases eq_frame_of_fill hfill with ⟨done, memory, after, pages, hworking, hrender, hframe⟩
  have hlength := length_renderPages hrender
  refine ⟨done, memory, after, pages, hworking, hrender, hlength, ?_⟩
  intro hdone hclean ended
  have hpages : pages ≠ [] := by
    rintro rfl
    exact hdone (List.length_eq_zero_iff.mp hlength.symm)
  have hout := @frame_eq job.device report.format hauto pages hpages hclean
  rw [← hframe] at hout
  refine ⟨hout, ?_, ?_⟩
  · rw [hout, String.append_left_inj, String.append_right_inj, printed_eq_terminated_iff,
      unbroken_eq_zero_iff]
  · have hcount := @count_printed job.device report.format ended pages hclean
    rw [String.toList_append, List.count_append,
      List.count_eq_zero.mpr job.device.formFeed_notMem_closing, Nat.add_zero, hcount, hlength]

/-- A job for plain text that evaluates no expression. -/
def plainJob : Job :=
  { resolver := .scriptless }

/-- A report of three pages, the second of which is blank. -/
def blankBetween : Report :=
  let first := ((Report.bounded 3).append (Line.ofText "a") true).2
  ((first.newPage true).newPage true).append (Line.ofText "b") true |>.2

/-- The blank page gets no break of its own: the output is not the one with a break after each of
its three pages. -/
theorem fill_blankBetween :
    plainJob.fill blankBetween [] = .ok "a\x0cb\x0c" ∧
      ("a\x0cb\x0c" = plainJob.device.preamble blankBetween.format ++
          terminated plainJob.device blankBetween.format [["a"], [], ["b"]] ++
          plainJob.device.closing ↔
        (∀ texts ∈ [[], ["b"]], pageText plainJob.device blankBetween.format texts ≠ "") ∧
        (false = true → ∀ texts ∈ some ["a"],
          pageText plainJob.device blankBetween.format texts ≠ "")) ∧
      (printed plainJob.device blankBetween.format false [["a"], [], ["b"]] ++
          plainJob.device.closing).toList.count Device.formFeed +
        unbroken plainJob.device blankBetween.format false [["a"], [], ["b"]] = 3 := by
  have hfill : plainJob.fill blankBetween [] = .ok "a\x0cb\x0c" := by rfl
  rcases fill_pageBreaks rfl hfill with ⟨done, memory, after, pages, hworking, hrender, -, hspec⟩
  have hdone : (Except.ok blankBetween.numbered, []) = (Except.ok done, memory) := hworking
  cases hdone
  have hrendered : (Except.ok [["a"], [], ["b"]], []) = (Except.ok pages, after) := hrender
  cases hrendered
  exact ⟨hfill, (hspec (by decide) (by decide)).2⟩

/-- Two blank pages. -/
def blankPages : Report :=
  ((Report.bounded 3).newPage true).newPage true

/-- Two blank pages share one page break. -/
theorem fill_blankPages :
    blankPages.format.autoFormFeed = true ∧
      plainJob.working blankPages [] = (.ok blankPages.numbered, []) ∧
      (plainJob.renderPages (activeSources []) {} blankPages.numbered.pages).run.run [] =
        (.ok [[], []], []) ∧
      plainJob.fill blankPages [] = .ok "\x0c" ∧
      plainJob.device.preamble blankPages.format ++
        terminated plainJob.device blankPages.format [[], []] ++ plainJob.device.closing =
          "\x0c\x0c" := by
  refine ⟨rfl, rfl, rfl, rfl, ?_⟩
  decide

end Job

end Platen
