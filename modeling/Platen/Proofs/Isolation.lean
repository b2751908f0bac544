import Mathlib.Data.List.Basic
import Platen.Proofs.Marks
import Platen.Proofs.Origin
import Platen.Proofs.PageBreaks

/-!
# Rows and the sources around them

The rows of a table or list are resolved against their own data.  The lines that they leave are
lines of the report like any other, though, and are rendered once more against the sources that the
report is filled from.  This module compares two fills of a report of markers, from sources that
answer the paths of its rows alike.

Main results:

- Theorem `Report.expandFirst_congr`: an expansion depends on its sources through the rows of the
  markers alone.
- Theorem `Job.fill_congr`: two fills agree if they expand to the same report and all its lines read
  alike.
- Theorem `Job.fill_eq_of_rows`: two fills expand to the same report, and they agree if every row
  reads alike; rows without placeholders always do.
- Theorem `Job.fill_nestedItem`: a row whose own text is written as a placeholder does not.
-/

namespace Platen

variable {α β : Type}

/-! ## Computations that agree -/

/-- Whether two computations give the same result from any sound memories, which stay sound. -/
def Alike (x y : Resolving α) : Prop :=
  ∀ memory memory' : Memory, memory.Sound → memory'.Sound →
    (x.run.run memory).1 = (y.run.run memory').1 ∧
      (x.run.run memory).2.Sound ∧ (y.run.run memory').2.Sound

namespace Alike

/-- A result that is given twice is the same. -/
theorem pure (a : α) : Alike (pure a) (pure a) :=
  fun _ _ hsound hsound' => ⟨rfl, hsound, hsound'⟩

/-- Two computations that do not depend on their memory agree if they agree without one. -/
theorem of_transparent {x y : Resolving α} (hx : Transparent x) (hy : Transparent y)
    (hfresh : (x.run.run []).1 = (y.run.run []).1) : Alike x y := by
  intro memory memory' hsound hsound'
  rcases hx memory hsound with ⟨hleft, hafter⟩
  rcases hy memory' hsound' with ⟨hright, hafter'⟩
  exact ⟨hleft.trans (hfresh.trans hright.symm), hafter, hafter'⟩

/-- Computations in two parts agree if their parts do. -/
theorem bind {x y : Resolving α} {f g : α → Resolving β} (hxy : Alike x y)
    (hfg : ∀ a, Alike (f a) (g a)) : Alike (x >>= f) (y >>= g) := by
  intro memory memory' hsound hsound'
  rcases hxy memory memory' hsound hsound' with ⟨hresult, hafter, hafter'⟩
  rw [run_bind, run_bind]
  revert hresult hafter hafter'
  rcases x.run.run memory with ⟨result, after⟩
  rcases y.run.run memory' with ⟨result', after'⟩
  rintro rfl hafter hafter'
  cases result with
  | error e => exact ⟨rfl, hafter, hafter'⟩
  | ok a => exact hfg a after after' hafter hafter'

end Alike

/-! ## Texts without placeholders -/

/-- Whether a text holds no placeholder. -/
def Unmarked (text : String) : Prop :=
  ∀ kind : Placeholder.Kind, kind.pattern.holes text = []

/-- A text without braces holds no placeholder. -/
theorem unmarked_of_notMem {text : String} (hbrace : '\x7b' ∉ text.toList) : Unmarked text :=
  fun _ => Pattern.holes_eq_nil_iff.mpr (Pattern.hole_notMem_piecesFrom hbrace)

namespace Resolver

/-- Characters before other pieces stay as they are, and nothing is remembered for them. -/
theorem run_renderPieces_chars (r : Resolver) (kind : Placeholder.Kind) (sources : List Source)
    (cs : List Char) (rest : List Piece) (memory : Memory) :
    (r.renderPieces kind sources (cs.map Piece.char ++ rest)).run.run memory =
      (((r.renderPieces kind sources rest).run.run memory).1.map (cs ++ ·),
        ((r.renderPieces kind sources rest).run.run memory).2) := by
  induction cs with
  | nil =>
      rcases h : (r.renderPieces kind sources rest).run.run memory with ⟨result, after⟩
      cases result <;> exact h
  | cons c cs ih =>
      rw [List.map_cons, List.cons_append, renderPieces, run_bind, ih]
      rcases (r.renderPieces kind sources rest).run.run memory with ⟨result, after⟩
      cases result <;> rfl

/-- A pass leaves a text without placeholders as it is, and nothing is remembered for it. -/
theorem run_pass_of_unmarked (r : Resolver) {kind : Placeholder.Kind} {text : String}
    (hplain : kind.pattern.holes text = []) (sources : List Source) (memory : Memory) :
    (r.pass kind text sources).run.run memory = (.ok text, memory) := by
  have hpieces : kind.pattern.pieces text = text.toList.map Piece.char ++ [] := by
    rw [List.append_nil]
    exact Pattern.piecesFrom_eq_map (Pattern.holes_eq_nil_iff.mp hplain)
  rw [pass, hpieces, run_bind, run_renderPieces_chars]
  show (Except.ok (String.ofList (text.toList ++ [])), memory) = _
  rw [List.append_nil, String.ofList_toList]

/-- A text without placeholders is its own rendering, and nothing is remembered for it. -/
theorem run_renderText_of_unmarked (r : Resolver) {text : String} (hplain : Unmarked text)
    (sources : List Source) (memory : Memory) :
    (r.renderText text sources).run.run memory = (.ok text, memory) := by
  rw [renderText, run_bind, r.run_pass_of_unmarked (hplain .member)]
  exact r.run_pass_of_unmarked (hplain .script) sources memory

/-- A text that is a placeholder becomes what the placeholder leaves. -/
theorem run_pass_of_hole (r : Resolver) {kind : Placeholder.Kind} {text inner : String}
    (hpieces : kind.pattern.pieces text = [.hole inner.toList]) (sources : List Source)
    (memory : Memory) :
    (r.pass kind text sources).run.run memory = (r.render kind sources inner).run.run memory := by
  rw [pass, hpieces, run_bind, renderPieces, run_bind, String.ofList_toList]
  rcases (r.render kind sources inner).run.run memory with ⟨result, after⟩
  cases result with
  | error e => rfl
  | ok shown =>
      show (Except.ok (String.ofList (shown.toList ++ [])), after) = _
      rw [List.append_nil, String.ofList_toList]

/-- A text that is a member placeholder is rendered as the member, if that holds no expression. -/
theorem run_renderText_of_member (r : Resolver) {text inner shown : String}
    {sources : List Source} {memory after : Memory}
    (hpieces : Placeholder.Kind.member.pattern.pieces text = [.hole inner.toList])
    (hmember : (r.render .member sources inner).run.run memory = (.ok shown, after))
    (hplain : Placeholder.Kind.script.pattern.holes shown = []) :
    (r.renderText text sources).run.run memory = (.ok shown, after) := by
  rw [renderText, run_bind, r.run_pass_of_hole hpieces, hmember]
  exact r.run_pass_of_unmarked hplain sources after

/-- Whether a text is rendered alike from two lists of sources. -/
def ReadsAlike (r : Resolver) (sources others : List Source) (text : String) : Prop :=
  ((r.renderText text sources).run.run []).1 = ((r.renderText text others).run.run []).1

/-- A text without placeholders reads alike from all sources. -/
theorem readsAlike_of_unmarked (r : Resolver) (sources others : List Source) {text : String}
    (hplain : Unmarked text) : r.ReadsAlike sources others text := by
  rw [ReadsAlike, r.run_renderText_of_unmarked hplain, r.run_renderText_of_unmarked hplain]

end Resolver

/-! ## Markers -/

/-- The rule of a border holds no placeholder. -/
theorem Table.unmarked_rule (table : Table) : Unmarked table.rule := by
  apply unmarked_of_notMem
  simp [Table.rule]

/-- Every line of a section shows a row or belongs to the header or footer. -/
theorem Section.exists_of_mem_blocks {header footer rows : List String} {slot : Slot}
    (hroom : shortage? header footer slot = none) {line : Line}
    (hline : line ∈ (blocks header footer rows slot).flatten) :
    ∃ text, (text ∈ header ++ footer ∨ text ∈ rows) ∧ line = Line.ofText text := by
  have hrows := flatten_rowChunks hroom rows
  rcases List.mem_flatten.mp hline with ⟨block, hblock, hline⟩
  rcases List.mem_map.mp hblock with ⟨chunk, hchunk, rfl⟩
  rcases List.mem_map.mp hline with ⟨text, htext, rfl⟩
  refine ⟨text, ?_, rfl⟩
  rcases List.mem_append.mp htext with hfront | hfooter
  · rcases List.mem_append.mp hfront with hheader | hrow
    · exact .inl (List.mem_append_left footer hheader)
    · exact .inr (hrows ▸ List.mem_flatten_of_mem hchunk hrow)
  · exact .inl (List.mem_append_right header hfooter)

namespace Line

/-- The texts that a marker is given to print around its rows. -/
def surround (line : Line) : List String :=
  match line.content with
  | .table table => table.header ++ table.footer
  | .list listing => listing.header ++ listing.footer
  | .text _ | .empty => []

/-- Whether a line is a marker whose header and footer hold no placeholder. -/
structure PlainMarker (line : Line) : Prop where
  isMarker : line.isMarker = true
  surround : ∀ text ∈ line.surround, Unmarked text

/-- Whether two lists of sources answer the path of the rows of a line alike. -/
def SharesRows (sources others : List Source) (line : Line) : Prop :=
  ∀ path ∈ line.source?, Source.resolve? sources path = Source.resolve? others path

/-- The rules of a border hold no placeholder either. -/
theorem PlainMarker.unmarked_frame {line : Line} (hline : line.PlainMarker) :
    ∀ text ∈ line.frameTop ++ line.frameBottom, Unmarked text := by
  have hsurround := hline.surround
  unfold Line.surround at hsurround
  unfold frameTop frameBottom
  cases hcontent : line.content with
  | table table =>
      simp only [hcontent, List.forall_mem_append] at hsurround ⊢
      rcases hsurround with ⟨hheader, hfooter⟩
      unfold Table.frameTop Table.frameBottom
      split
      · exact ⟨List.forall_mem_append.mpr ⟨hheader, by simpa using table.unmarked_rule⟩,
          List.forall_mem_cons.mpr ⟨table.unmarked_rule, hfooter⟩⟩
      · exact ⟨hheader, hfooter⟩
  | list listing => simpa [hcontent] using hsurround
  | text s => simp
  | empty => simp

variable {r : Resolver} {sources others : List Source}

/-- A line has the same rows from sources that answer its path alike. -/
theorem SharesRows.rowValues_eq {line : Line} (hshares : line.SharesRows sources others) :
    line.rowValues sources = line.rowValues others := by
  unfold SharesRows source? at hshares
  unfold rowValues
  cases hcontent : line.content with
  | table table =>
      simp only [hcontent] at hshares ⊢
      rw [resolveRows, hshares _ rfl, resolveRows]
  | list listing =>
      simp only [hcontent] at hshares ⊢
      rw [resolveRows, hshares _ rfl, resolveRows]
  | text s => rfl
  | empty => rfl

/-- The lines that take the place of a marker depend on the sources through its rows alone. -/
theorem SharesRows.sectionLines_eq {line : Line} (hshares : line.SharesRows sources others)
    (hmarker : line.isMarker = true) (r : Resolver) (slot : Slot) :
    line.sectionLines r sources slot = line.sectionLines r others slot := by
  rw [Line.sectionLines_eq hmarker, Line.sectionLines_eq hmarker, rowTexts, hshares.rowValues_eq,
    rowTexts]

/-- A line that is no marker asks no source for rows. -/
theorem sharesRows_of_static {line : Line} (hstatic : line.isMarker = false) :
    line.SharesRows sources others := by
  unfold SharesRows source?
  cases hcontent : line.content with
  | table table => simp [isMarker, hcontent] at hstatic
  | list listing => simp [isMarker, hcontent] at hstatic
  | text s => simp
  | empty => simp

/-- Whether a line is rendered alike from two lists of sources, and if it is a marker, so are its
frame and its rows. -/
structure ReadsAlike (r : Resolver) (sources others : List Source) (line : Line) : Prop where
  text : r.ReadsAlike sources others line.text
  frame : ∀ text ∈ line.frameTop ++ line.frameBottom, r.ReadsAlike sources others text
  rows : ∀ rows, ((line.rowTexts r sources).run.run []).1 = .ok rows →
    ∀ text ∈ rows, r.ReadsAlike sources others text

/-- A marker has no text of its own. -/
theorem text_of_isMarker {line : Line} (hmarker : line.isMarker = true) : line.text = "" := by
  unfold text
  cases hcontent : line.content with
  | text s => simp [isMarker, hcontent] at hmarker
  | empty | table _ | list _ => rfl

/-- A marker without placeholders around its rows reads alike if its rows do. -/
theorem PlainMarker.readsAlike {line : Line} (hline : line.PlainMarker)
    (hrows : ∀ rows, ((line.rowTexts r sources).run.run []).1 = .ok rows →
      ∀ text ∈ rows, r.ReadsAlike sources others text) : line.ReadsAlike r sources others where
  text := by
    rw [text_of_isMarker hline.isMarker]
    rfl
  frame := fun text htext => r.readsAlike_of_unmarked _ _ (hline.unmarked_frame text htext)
  rows := hrows

/-- A line that takes the place of a marker shows a row or belongs to the frame. -/
theorem ReadsAlike.of_mem_sectionLines {marker : Line} (halike : marker.ReadsAlike r sources others)
    (hmarker : marker.isMarker = true) {slot : Slot} {lines : List Line} {memory after : Memory}
    (hsound : memory.Sound)
    (hlines : (marker.sectionLines r sources slot).run.run memory = (.ok lines, after)) :
    ∀ line ∈ lines, line.ReadsAlike r sources others := by
  rcases sectionLines_ok hmarker hlines with ⟨rows, hrows, hroom, rfl⟩
  have hfresh : ((marker.rowTexts r sources).run.run []).1 = .ok rows := by
    rw [← (marker.transparent_rowTexts r sources memory hsound).1, hrows]
  intro line hline
  rcases Section.exists_of_mem_blocks hroom hline with ⟨text, htext, rfl⟩
  have hread : r.ReadsAlike sources others text := by
    rcases htext with hframe | hrow
    · exact halike.frame text hframe
    · exact halike.rows rows hfresh text hrow
  refine ⟨hread, by simp [frameTop, frameBottom, ofText], fun shown hshown => ?_⟩
  cases hshown
  simp

end Line

/-! ## Expansions -/

namespace Report

/-- An expansion depends on its sources through the rows of the markers alone. -/
theorem expandFirst_congr {sources others : List Source} {frame : Line → Prop} {report : Report}
    (hreport : report.Composed (Line.SharesRows sources others) frame) (r : Resolver) (count : Nat)
    (memory : Memory) :
    report.expandFirst r sources count memory = report.expandFirst r others count memory := by
  induction count generalizing report memory with
  | zero => rfl
  | succ count ih =>
      cases htake : report.takeMarker? with
      | none => simp only [expandFirst, htake]
      | some taken =>
          rcases taken with ⟨index, slot, marker, rest⟩
          rcases takeMarker?_eq_some htake with ⟨place, rfl, rfl, rfl⟩
          simp only [expandFirst, htake,
            (hreport.marker place).sectionLines_eq place.isMarker r place.slot]
          cases hlines : (marker.sectionLines r others place.slot).run.run memory with
          | mk result memory' =>
              cases result with
              | error e => rfl
              | ok lines =>
                  have hstatic := Line.static_of_sectionLines place.isMarker hlines
                  have hspliced := (hreport.without place).splice place.before.length
                    place.slot.offset
                    fun line hline => Line.sharesRows_of_static (hstatic line hline)
                  rw [FirstMarker.without] at hspliced
                  simp only
                  split
                  · rfl
                  · rename_i report' hresult
                    rw [hresult] at hspliced
                    exact ih hspliced memory'

/-- Whether all lines of a report are rendered alike from two lists of sources. -/
def ReadsAlike (r : Resolver) (sources others : List Source) (report : Report) : Prop :=
  report.Composed (Line.ReadsAlike r sources others)
    fun line => r.ReadsAlike sources others line.text

namespace ReadsAlike

variable {r : Resolver} {sources others : List Source} {report : Report}

/-- An expansion leaves a report that reads alike, if it was one. -/
theorem expandFirst (hreport : report.ReadsAlike r sources others) (count : Nat) {memory : Memory}
    (hsound : memory.Sound) :
    (report.expandFirst r sources count memory).report.ReadsAlike r sources others :=
  Composed.expandFirst hreport
    (fun _ _ _ _ _ hmarker halike hstart hlines =>
      halike.of_mem_sectionLines hmarker hstart hlines) count hsound

/-- The text of a line does not depend on its number. -/
theorem numbered (hreport : report.ReadsAlike r sources others) :
    report.numbered.ReadsAlike r sources others :=
  Composed.numbered hreport (fun _ _ _ halike => ⟨halike.text, halike.frame, halike.rows⟩)
    fun _ _ _ halike => halike

/-- All lines of a report that reads alike do so, those of headers and footers too. -/
theorem lines (hreport : report.ReadsAlike r sources others) :
    ∀ page ∈ report.pages, ∀ line ∈ page.lines, r.ReadsAlike sources others line.text := by
  intro page hpage
  rcases hreport.pages page hpage with ⟨hcontent, hframed⟩
  rcases List.forall_mem_append.mp hframed with ⟨hheader, hfooter⟩
  exact List.forall_mem_append.mpr ⟨List.forall_mem_append.mpr
    ⟨hheader, fun line hline => (hcontent line hline).text⟩, hfooter⟩

end ReadsAlike

end Report

namespace Job

variable {job : Job} {report : Report} {sources others : List Source}

/-- The report that is printed depends on the sources through the rows of the markers alone. -/
theorem working_congr {frame : Line → Prop}
    (hreport : report.Composed (Line.SharesRows (activeSources sources) (activeSources others))
      frame) : job.working report sources = job.working report others := by
  simp only [working, Report.expand, Report.expandFirst_congr hreport]

/-- What was remembered by the expansion is sound. -/
theorem sound_working (job : Job) (report : Report) (sources : List Source) :
    (job.working report sources).2.Sound := by
  unfold working
  split
  · exact report.sound_expandFirst job.resolver _ _ Memory.sound_nil
  · exact Memory.sound_nil

/-- If all lines of a report read alike, so do all lines of the report that is printed. -/
theorem readsAlike_working {done : Report} {memory : Memory}
    (hreport : report.ReadsAlike job.resolver (activeSources sources) (activeSources others))
    (hworking : job.working report sources = (.ok done, memory)) :
    done.ReadsAlike job.resolver (activeSources sources) (activeSources others) := by
  unfold working at hworking
  split at hworking
  · rcases Prod.mk.inj hworking with ⟨hresult, -⟩
    cases houtcome : (report.expand job.resolver (activeSources sources) []).outcome with
    | error e =>
        rw [houtcome] at hresult
        cases hresult
    | ok _ =>
        rw [houtcome] at hresult
        cases hresult
        exact (hreport.expandFirst report.markerCount Memory.sound_nil).numbered
  · cases hworking
    exact hreport.numbered

/-! ## Rendering -/

/-- Two renderings agree if every line reads alike from both lists of sources. -/
theorem alike_renderLines (job : Job) (page : Nat) (styles : Styles) {lines : List Line}
    (hlines : ∀ line ∈ lines, job.resolver.ReadsAlike sources others line.text) :
    Alike (job.renderLines sources page styles lines)
      (job.renderLines others page styles lines) := by
  induction lines generalizing styles with
  | nil => exact .pure _
  | cons line rest ih =>
      rcases List.forall_mem_cons.mp hlines with ⟨hline, hrest⟩
      have htext : Alike (job.resolver.renderText line.text sources)
          (job.resolver.renderText line.text others) :=
        .of_transparent (job.resolver.transparent_renderText _ _)
          (job.resolver.transparent_renderText _ _) hline
      exact (htext.bind fun _ => .pure _).bind fun _ => (ih _ hrest).bind fun _ => .pure _

/-- Two renderings of pages agree if every line reads alike from both lists of sources. -/
theorem alike_renderPages (job : Job) (styles : Styles) {pages : List Page}
    (hpages : ∀ page ∈ pages, ∀ line ∈ page.lines,
      job.resolver.ReadsAlike sources others line.text) :
    Alike (job.renderPages sources styles pages) (job.renderPages others styles pages) := by
  induction pages generalizing styles with
  | nil => exact .pure _
  | cons page rest ih =>
      rcases List.forall_mem_cons.mp hpages with ⟨hpage, hrest⟩
      exact (job.alike_renderLines page.number styles hpage).bind fun _ =>
        (ih _ hrest).bind fun _ => .pure _

/-- A page with a single line is rendered as that line. -/
theorem run_renderPages_single (job : Job) {sources : List Source} (styles : Styles) {page : Page}
    {line : Line} {text : String} {memory after : Memory} (hlines : page.lines = [line])
    (htext : (job.resolver.renderText line.text sources).run.run memory = (.ok text, after)) :
    (job.renderPages sources styles [page]).run.run memory =
      (.ok [[(styles.apply text (line.position page.number) job.device).1]], after) := by
  have hline : (job.renderLine sources page.number styles line).run.run memory =
      (.ok (styles.apply text (line.position page.number) job.device), after) := by
    rw [renderLine, run_bind, htext]
    rfl
  have hrendered : (job.renderLines sources page.number styles [line]).run.run memory =
      (.ok ([(styles.apply text (line.position page.number) job.device).1],
        (styles.apply text (line.position page.number) job.device).2), after) := by
    rw [renderLines, run_bind, hline]
    rfl
  rw [renderPages, run_bind, hlines, hrendered]
  rfl

/-- Two fills agree if they expand to the same report and all its lines read alike. -/
theorem fill_congr (hworking : job.working report sources = job.working report others)
    (hreport : report.ReadsAlike job.resolver (activeSources sources) (activeSources others)) :
    job.fill report sources = job.fill report others := by
  have hsound := job.sound_working report sources
  unfold fill
  rw [← hworking]
  cases hdone : job.working report sources with
  | mk result memory =>
      rw [hdone] at hsound
      cases result with
      | error e => rfl
      | ok done =>
          have hlines := (readsAlike_working hreport hdone).lines
          have halike := (job.alike_renderPages {} hlines memory memory hsound hsound).1
          simp only
          revert halike
          rcases (job.renderPages (activeSources sources) {} done.pages).run.run memory with
            ⟨rendered, -⟩
          rcases (job.renderPages (activeSources others) {} done.pages).run.run memory with
            ⟨rendered', -⟩
          rintro rfl
          cases rendered <;> rfl

/-- A report of markers, whose headers and footers hold no placeholder, filled from two lists of
sources that answer the paths of its rows alike.  Its expansion is the same; it sees nothing but the
rows.  The output, or the error, is the same too, if the text of every row reads alike from both
lists when the lines of the report are rendered.  A text without placeholders always does. -/
theorem fill_eq_of_rows (job : Job) {report : Report} {sources others : List Source}
    (hreport : report.Composed Line.PlainMarker fun line => Unmarked line.text)
    (hshares : ∀ page ∈ report.pages, ∀ line ∈ page.content,
      line.SharesRows (activeSources sources) (activeSources others)) :
    job.working report sources = job.working report others ∧
      ((∀ page ∈ report.pages, ∀ line ∈ page.content, ∀ rows,
          ((line.rowTexts job.resolver (activeSources sources)).run.run []).1 = .ok rows →
          ∀ text ∈ rows,
            job.resolver.ReadsAlike (activeSources sources) (activeSources others) text) →
        job.fill report sources = job.fill report others) ∧
      ∀ text, Unmarked text →
        job.resolver.ReadsAlike (activeSources sources) (activeSources others) text := by
  have hworking : job.working report sources = job.working report others :=
    working_congr ⟨fun page hpage => ⟨hshares page hpage, (hreport.pages page hpage).framed⟩,
      hreport.seeds⟩
  have hplain : ∀ text, Unmarked text →
      job.resolver.ReadsAlike (activeSources sources) (activeSources others) text :=
    fun text => job.resolver.readsAlike_of_unmarked _ _
  refine ⟨hworking, fun hrows => fill_congr hworking ⟨fun page hpage => ?_, ?_⟩, hplain⟩
  · exact ⟨fun line hline => ((hreport.pages page hpage).content line hline).readsAlike
      (hrows page hpage line hline),
      fun line hline => hplain _ ((hreport.pages page hpage).framed line hline)⟩
  · exact fun text htext => hplain _ (hreport.seeds text htext)

/-- A list that shows its items. -/
def itemList : Report :=
  ((Report.bounded 3).append
    (Line.ofListing { source := "items", template := "$\x7brow\x7d" }) false).2

/-- A source with one item beside a secret. -/
def itemAndSecret (item secret : String) : List Source :=
  [.keyed [("items", .list [.text item]), ("secret", .text secret)]]

/-- The list is a marker without placeholders around its rows. -/
theorem composed_itemList :
    itemList.Composed Line.PlainMarker fun line => Unmarked line.text where
  pages := by
    intro page hpage
    cases List.mem_singleton.mp hpage
    refine ⟨fun line hline => ?_, fun line hline => by cases hline⟩
    cases List.mem_singleton.mp hline
    exact ⟨rfl, fun text htext => by cases htext⟩
  seeds := fun text htext => by cases htext

/-- The secret is not among the rows. -/
theorem sharesRows_itemList (item secret other : String) :
    ∀ page ∈ itemList.pages, ∀ line ∈ page.content, line.SharesRows
      (activeSources (itemAndSecret item secret)) (activeSources (itemAndSecret item other)) := by
  intro page hpage line hline
  cases List.mem_singleton.mp hpage
  cases List.mem_singleton.mp hline
  rintro path ⟨⟩
  rfl

/-- The marker of the list. -/
def itemMarker : Line :=
  Line.ofListing { source := "items", template := "$\x7brow\x7d" }

/-- What is remembered of a placeholder that holds nothing but the path of a member. -/
def memberEntry (path : String) : (Placeholder.Kind × String) × Placeholder :=
  ((.member, path), { kind := .member, text := path, base := path })

/-- The line that an item leaves. -/
def itemLine (item : String) : Line :=
  { content := .text item, number := some 1, globalNumber := some 1 }

/-- The list with its item in the place of the marker. -/
def shownItem (item : String) : Report :=
  { itemList with
    pages := [{
      number := 1
      pageLength := some 3
      header := []
      content := [itemLine item]
      footer := [] }] }

section

variable {item secret : String}

/-- A text that is reached as the row is the text of its row. -/
theorem run_rowTexts_itemMarker (hitem : Source.ofRow (.text item) = .keyed [("row", .text item)])
    (hplain : Placeholder.Kind.script.pattern.holes item = []) :
    (itemMarker.rowTexts plainJob.resolver (activeSources (itemAndSecret item secret))).run.run [] =
      (.ok [item], [memberEntry "row"]) := by
  have hvalues : itemMarker.rowValues (activeSources (itemAndSecret item secret)) =
      .ok [.text item] := rfl
  have hmember : (plainJob.resolver.render .member [.keyed [("row", .text item)]] "row").run.run
      [] = (.ok item, [memberEntry "row"]) := rfl
  have hrow : (plainJob.resolver.renderText "$\x7brow\x7d"
      [.keyed [("row", .text item)]]).run.run [] = (.ok item, [memberEntry "row"]) :=
    plainJob.resolver.run_renderText_of_member rfl hmember hplain
  rw [Line.rowTexts, run_bind, run_liftM, hvalues]
  show (Listing.rowLines { source := "items", template := "$\x7brow\x7d" } plainJob.resolver
    [.text item]).run.run [] = _
  rw [Listing.rowLines, run_bind, hitem, hrow]
  rfl

/-- The expansion puts the item in the place of the marker. -/
theorem working_itemList (hitem : Source.ofRow (.text item) = .keyed [("row", .text item)])
    (hplain : Placeholder.Kind.script.pattern.holes item = []) :
    plainJob.working itemList (itemAndSecret item secret) =
      (.ok (shownItem item), [memberEntry "row"]) := by
  have hmarkers : itemList.hasMarkers = true := rfl
  have htake : itemList.takeMarker? = some (0, { page := 1, offset := 0, budget := some 3 },
      itemMarker, { itemList with
        pages := [{ number := 1, pageLength := some 3, header := [], footer := [] }] }) := rfl
  have hlines : (itemMarker.sectionLines plainJob.resolver
      (activeSources (itemAndSecret item secret))
      { page := 1, offset := 0, budget := some 3 }).run.run [] =
        (.ok [Line.ofText item], [memberEntry "row"]) := by
    rw [Line.sectionLines_eq rfl, run_bind, run_rowTexts_itemMarker hitem hplain]
    rfl
  have hexpand : itemList.expand plainJob.resolver (activeSources (itemAndSecret item secret)) [] =
      ⟨((Report.bounded 3).append (Line.ofText item) false).2, [memberEntry "row"], .ok ()⟩ := by
    show itemList.expandFirst _ _ 1 [] = _
    rw [Report.expandFirst, htake]
    dsimp only
    rw [hlines]
    rfl
  rw [working, if_pos hmarkers, hexpand]
  rfl

/-- An item that is written as a placeholder leaves a line that is rendered as the secret. -/
theorem fill_itemList (hplain : Placeholder.Kind.script.pattern.holes secret = []) :
    plainJob.fill itemList (itemAndSecret "$\x7bsecret\x7d" secret) =
      .ok (frame .plain itemList.format [[(({} : Styles).apply secret
        { page := 1, line := 1, globalLine := 1 } .plain).1]]) := by
  have hmember : (plainJob.resolver.render .member
      (activeSources (itemAndSecret "$\x7bsecret\x7d" secret)) "secret").run.run
        [memberEntry "row"] = (.ok secret, [memberEntry "secret", memberEntry "row"]) := rfl
  have htext : (plainJob.resolver.renderText (itemLine "$\x7bsecret\x7d").text
      (activeSources (itemAndSecret "$\x7bsecret\x7d" secret))).run.run [memberEntry "row"] =
        (.ok secret, [memberEntry "secret", memberEntry "row"]) :=
    plainJob.resolver.run_renderText_of_member rfl hmember hplain
  rw [fill, working_itemList rfl rfl]
  dsimp only [shownItem]
  rw [plainJob.run_renderPages_single {} rfl htext]
  rfl

end

/-- The secret does not change how an item without placeholders is printed. -/
theorem fill_plainItem :
    plainJob.fill itemList (itemAndSecret "x" "a") =
      plainJob.fill itemList (itemAndSecret "x" "b") := by
  rcases fill_eq_of_rows plainJob composed_itemList (sharesRows_itemList "x" "a" "b") with
    ⟨-, hfill, hplain⟩
  refine hfill fun page hpage line hline rows hrows text htext => hplain text ?_
  cases List.mem_singleton.mp hpage
  cases List.mem_singleton.mp hline
  have hshown : ((itemMarker.rowTexts plainJob.resolver
      (activeSources (itemAndSecret "x" "a"))).run.run []).1 = .ok ["x"] := by
    rw [run_rowTexts_itemMarker rfl rfl]
  cases hshown.symm.trans hrows
  cases List.mem_singleton.mp htext
  exact unmarked_of_notMem (by decide)

/-- An item that is written as a placeholder prints the secret. -/
theorem fill_nestedItem :
    (itemList.Composed Line.PlainMarker fun line => Unmarked line.text) ∧
    (∀ page ∈ itemList.pages, ∀ line ∈ page.content, line.SharesRows
      (activeSources (itemAndSecret "$\x7bsecret\x7d" "a"))
      (activeSources (itemAndSecret "$\x7bsecret\x7d" "b"))) ∧
    plainJob.fill itemList (itemAndSecret "$\x7bsecret\x7d" "a") = .ok "a\x0c" ∧
    plainJob.fill itemList (itemAndSecret "$\x7bsecret\x7d" "b") = .ok "b\x0c" := by
  refine ⟨composed_itemList, sharesRows_itemList _ _ _, ?_, ?_⟩
  · rw [fill_itemList rfl]
    rfl
  · rw [fill_itemList rfl]
    rfl

end Job

end Platen
