import Platen.Proofs.ExpansionRun

/-!
# How an expansion ends

An expansion takes out one marker after the other until there is none.  This module proves that it
ends, that it visits the markers in the order of the document, and for which reasons it can stop
before the last one.

Main results:

- Theorem `Report.expandFirst_of_le`: an expansion that may take more steps than there are markers
  is the same.
- Theorem `Report.exists_stop`: an expansion that fails has expanded all markers before some marker
  and stops there for one of the reasons that `Report.FirstMarker.Stops` lists.
- Theorem `Report.expand_ends`: an expansion ends after at most as many steps as there are markers;
  none is left, or it stops for one of these reasons.  No line is ever refused by a page.
-/

namespace Platen

variable {α β : Type}

/-! ## Failures of computations -/

/-- Whether all failures of a computation are of some kind. -/
def FailsAs (x : Resolving α) (kind : FillError → Prop) : Prop :=
  ∀ (memory : Memory) (e : FillError), (x.run.run memory).1 = .error e → kind e

namespace FailsAs

variable {kind : FillError → Prop}

/-- A given result does not fail. -/
theorem pure (a : α) : FailsAs (pure a : Resolving α) kind := by
  intro memory e hrun
  cases hrun

/-- A computation that remembers nothing fails in its own ways. -/
theorem lift {x : Except FillError α} (hx : ∀ e, x = .error e → kind e) :
    FailsAs (liftM x : Resolving α) kind :=
  fun _ e hrun => hx e hrun

/-- A computation in two parts fails where one of its parts does. -/
theorem bind {x : Resolving α} {f : α → Resolving β} (hx : FailsAs x kind)
    (hf : ∀ a, FailsAs (f a) kind) : FailsAs (x >>= f) kind := by
  intro memory e hrun
  rw [run_bind] at hrun
  cases hfirst : x.run.run memory with
  | mk result middle =>
      rw [hfirst] at hrun
      cases result with
      | error e' =>
          cases hrun
          exact hx memory e (by rw [hfirst])
      | ok a => exact hf a middle e hrun

/-- What fails in one way fails in any wider one. -/
theorem mono {x : Resolving α} {kind' : FillError → Prop} (hx : FailsAs x kind)
    (hkind : ∀ e, kind e → kind' e) : FailsAs x kind' :=
  fun memory e hrun => hkind e (hx memory e hrun)

end FailsAs

/-- Whether a computation can fail with an error. -/
def CanFail (x : Resolving α) (e : FillError) : Prop :=
  ∃ memory : Memory, (x.run.run memory).1 = .error e

/-- A computation fails in the ways in which it can fail. -/
theorem failsAs_canFail (x : Resolving α) : FailsAs x (CanFail x) :=
  fun memory _ hrun => ⟨memory, hrun⟩

/-- Whether an error is due to a placeholder. -/
def FillError.OfPlaceholder (e : FillError) : Prop :=
  ∃ (expression : String) (cause : PlaceholderError), e = .invalidPlaceholder expression cause

namespace Resolver

open FillError

/-- What is tied to a placeholder is a failure of that placeholder. -/
theorem ofPlaceholder_of_tie {expression : String} {result : Except PlaceholderError α}
    {e : FillError} (htie : tie expression result = .error e) : OfPlaceholder e := by
  cases result with
  | ok a => cases htie
  | error cause =>
      cases htie
      exact ⟨expression, cause, rfl⟩

/-- A result that is tied to a placeholder fails as one. -/
theorem failsAs_tie (expression : String) (result : Except PlaceholderError α) :
    FailsAs (tie expression result : Resolving α) OfPlaceholder :=
  .lift fun _ => ofPlaceholder_of_tie

/-- Reading a placeholder fails as a placeholder. -/
theorem failsAs_placeholder (kind : Placeholder.Kind) (text : String) :
    FailsAs (placeholder kind text) OfPlaceholder := by
  intro memory e hrun
  rw [run_placeholder] at hrun
  split at hrun
  · cases hrun
  · split at hrun
    · cases hrun
    · rename_i htie
      cases hrun
      exact ofPlaceholder_of_tie htie

/-- Rendering a placeholder fails as a placeholder. -/
theorem failsAs_render (r : Resolver) (kind : Placeholder.Kind) (sources : List Source)
    (text : String) : FailsAs (r.render kind sources text) OfPlaceholder :=
  (failsAs_placeholder kind text).bind fun _ => failsAs_tie _ _

/-- Rendering pieces fails as a placeholder among them. -/
theorem failsAs_renderPieces (r : Resolver) (kind : Placeholder.Kind) (sources : List Source)
    (pieces : List Piece) : FailsAs (r.renderPieces kind sources pieces) OfPlaceholder := by
  induction pieces with
  | nil => exact .pure _
  | cons piece rest ih =>
      cases piece with
      | char c => exact ih.bind fun _ => .pure _
      | hole inner => exact (r.failsAs_render kind sources _).bind fun _ => ih.bind fun _ => .pure _

/-- A text fails to render because of a placeholder. -/
theorem failsAs_renderText (r : Resolver) (text : String) (sources : List Source) :
    FailsAs (r.renderText text sources) OfPlaceholder := by
  have hpass : ∀ kind text, FailsAs (r.pass kind text sources) OfPlaceholder :=
    fun kind text => (r.failsAs_renderPieces kind sources _).bind fun _ => .pure _
  exact (hpass .member text).bind fun member => hpass .script member

/-- A cell fails to resolve because of its placeholder. -/
theorem failsAs_cell (r : Resolver) (column : String) (sources : List Source) :
    FailsAs (r.cell column sources) OfPlaceholder :=
  (failsAs_placeholder _ _).bind fun _ =>
    (failsAs_tie _ _).bind fun _ => (failsAs_tie _ _).bind fun _ => .pure _

end Resolver

/-! ## Failures of rows -/

/-- The rows of a table fail with a cell of one of the rows. -/
theorem Table.failsAs_rowLines (table : Table) (r : Resolver) (rows : List Value) :
    FailsAs (table.rowLines r rows) fun e =>
      ∃ row ∈ rows, ∃ column ∈ table.columns,
        CanFail (r.cell column.text [Source.ofRow row]) e := by
  have hcells : ∀ (sources : List Source) (columns : List Column) (index : Nat)
      (buffer : WrapBuffer), FailsAs (table.rowCells r sources index buffer columns) fun e =>
        ∃ column ∈ columns, CanFail (r.cell column.text sources) e := by
    intro sources columns
    induction columns with
    | nil => exact fun _ _ => .pure _
    | cons column columns ih =>
        intro index buffer
        refine FailsAs.bind ?_ fun cell => FailsAs.bind ?_ fun _ => .pure _
        · exact (failsAs_canFail _).mono fun e he => ⟨column, List.mem_cons_self, he⟩
        · refine (ih _ _).mono fun e he => ?_
          rcases he with ⟨other, hother, hfail⟩
          exact ⟨other, List.mem_cons_of_mem column hother, hfail⟩
  have hrows : ∀ buffer, FailsAs (table.rowLinesFrom r buffer rows) fun e =>
      ∃ row ∈ rows, ∃ column ∈ table.columns,
        CanFail (r.cell column.text [Source.ofRow row]) e := by
    induction rows with
    | nil => exact fun _ => .pure _
    | cons row rows ih =>
        intro buffer
        refine FailsAs.bind ?_ fun cells => FailsAs.bind ?_ fun _ => .pure _
        · exact (hcells _ _ _ _).mono fun e he => ⟨row, List.mem_cons_self, he⟩
        · refine (ih _).mono fun e he => ?_
          rcases he with ⟨other, hother, hfail⟩
          exact ⟨other, List.mem_cons_of_mem row hother, hfail⟩
  exact hrows []

/-- The rows of a list fail with the template against one of the rows. -/
theorem Listing.failsAs_rowLines (listing : Listing) (r : Resolver) (rows : List Value) :
    FailsAs (listing.rowLines r rows) fun e =>
      ∃ row ∈ rows, CanFail (r.renderText listing.template [Source.ofRow row]) e := by
  induction rows with
  | nil => exact .pure _
  | cons row rows ih =>
      refine FailsAs.bind ?_ fun line => FailsAs.bind ?_ fun _ => .pure _
      · exact (failsAs_canFail _).mono fun e he => ⟨row, List.mem_cons_self, he⟩
      · refine ih.mono fun e he => ?_
        rcases he with ⟨other, hother, hfail⟩
        exact ⟨other, List.mem_cons_of_mem row hother, hfail⟩

/-- Rows cannot be found only if no source answers their path. -/
theorem resolveRows_eq_error {name : String} {sources : List Source} {e : FillError}
    (herror : resolveRows name sources = .error e) :
    Source.resolve? sources name = none ∧ e = .invalidPlaceholder name (.missingMember name) := by
  unfold resolveRows at herror
  split at herror
  · rename_i hnone
    cases herror
    exact ⟨hnone, rfl⟩
  · cases herror
  · cases herror
  · cases herror

namespace Report

/-! ## Reasons to stop -/

/-- The reasons for which an expansion stops at a marker. -/
inductive FirstMarker.Stops {report : Report} {marker : Line} (place : FirstMarker report marker)
    (r : Resolver) (sources : List Source) : FillError → Prop
  /-- No source answers the path of the rows. -/
  | source {name : String} : marker.source? = some name → Source.resolve? sources name = none →
      place.Stops r sources (.invalidPlaceholder name (.missingMember name))
  /-- A cell of a table does not resolve against a row. -/
  | cell {table : Table} {column : Column} {rows : List Value} {row : Value} {expression : String}
      {cause : PlaceholderError} :
      marker.content = .table table → column ∈ table.columns →
      marker.rowValues sources = .ok rows → row ∈ rows →
      CanFail (r.cell column.text [Source.ofRow row]) (.invalidPlaceholder expression cause) →
      place.Stops r sources (.invalidPlaceholder expression cause)
  /-- The template of a list does not resolve against a row. -/
  | template {listing : Listing} {rows : List Value} {row : Value} {expression : String}
      {cause : PlaceholderError} :
      marker.content = .list listing → marker.rowValues sources = .ok rows → row ∈ rows →
      CanFail (r.renderText listing.template [Source.ofRow row])
        (.invalidPlaceholder expression cause) →
      place.Stops r sources (.invalidPlaceholder expression cause)
  /-- The header and footer of the section leave no room on the page of the marker. -/
  | belowFooter {budget : Nat} : place.page.capacity = some budget →
      budget ≤ marker.frameTop.length + place.above.length + marker.frameBottom.length →
      place.Stops r sources (.insufficientSpace place.page.number
        (.sectionBelowFooter (marker.frameTop.length + place.above.length)
          (budget - marker.frameBottom.length)))
  /-- The header and footer of the report leave no room on a new page. -/
  | newPage : (report.nextPage false).capacity = some 0 →
      place.Stops r sources
        (.insufficientSpace (report.lastPageNumber + 1) .pageWithoutContent)

namespace FirstMarker

variable {report : Report} {marker : Line} {r : Resolver} {sources : List Source} {e : FillError}

/-- No line is refused by a page, neither in the layout of a section nor in the report. -/
theorem Stops.documented {place : FirstMarker report marker} (hstops : place.Stops r sources e) :
    (∀ cause, e ≠ .document cause) ∧ ∀ page, e ≠ .insufficientSpace page .sectionWithoutRows := by
  cases hstops <;> constructor <;> intros <;> simp

/-- An expansion stops at a marker whose rows fail. -/
theorem stops_of_rowTexts (place : FirstMarker report marker) {memory : Memory}
    (herror : ((marker.rowTexts r sources).run.run memory).1 = .error e) :
    place.Stops r sources e := by
  unfold Line.rowTexts at herror
  rw [run_bind, run_liftM] at herror
  cases hvalues : marker.rowValues sources with
  | error e' =>
      simp only [hvalues] at herror
      cases herror
      unfold Line.rowValues at hvalues
      cases hcontent : marker.content with
      | table table =>
          simp only [hcontent] at hvalues
          rcases resolveRows_eq_error hvalues with ⟨hnone, rfl⟩
          exact .source (by simp [Line.source?, hcontent]) hnone
      | list listing =>
          simp only [hcontent] at hvalues
          rcases resolveRows_eq_error hvalues with ⟨hnone, rfl⟩
          exact .source (by simp [Line.source?, hcontent]) hnone
      | text s => simp [hcontent] at hvalues
      | empty => simp [hcontent] at hvalues
  | ok rows =>
      simp only [hvalues] at herror
      cases hcontent : marker.content with
      | table table =>
          simp only [hcontent] at herror
          rcases table.failsAs_rowLines r rows _ _ herror with ⟨row, hrow, column, hcolumn, hfail⟩
          rcases hfail with ⟨memory', hrun⟩
          rcases r.failsAs_cell column.text _ memory' e hrun with ⟨expression, cause, rfl⟩
          exact .cell hcontent hcolumn hvalues hrow ⟨memory', hrun⟩
      | list listing =>
          simp only [hcontent] at herror
          rcases listing.failsAs_rowLines r rows _ _ herror with ⟨row, hrow, hfail⟩
          rcases hfail with ⟨memory', hrun⟩
          rcases r.failsAs_renderText listing.template _ memory' e hrun with
            ⟨expression, cause, rfl⟩
          exact .template hcontent hvalues hrow ⟨memory', hrun⟩
      | text s =>
          simp only [hcontent] at herror
          cases herror
      | empty =>
          simp only [hcontent] at herror
          cases herror

/-- An expansion stops at a marker whose section has no room on its page. -/
theorem stops_of_shortage (place : FirstMarker report marker)
    (hshort : Section.shortage? marker.frameTop marker.frameBottom place.slot = some e) :
    place.Stops r sources e := by
  unfold Section.shortage? at hshort
  cases hcapacity : place.page.capacity with
  | none => simp [slot, hcapacity] at hshort
  | some budget =>
      simp only [slot, hcapacity] at hshort
      split at hshort
      · rename_i hle
        obtain rfl := Option.some.inj hshort
        exact .belowFooter hcapacity (by omega)
      · cases hshort

/-- The layout of a section refuses nothing but a section without room. -/
theorem stops_of_sectionLines (place : FirstMarker report marker) {memory after : Memory}
    (herror : (marker.sectionLines r sources place.slot).run.run memory = (.error e, after)) :
    place.Stops r sources e := by
  rw [Line.sectionLines_eq place.isMarker, run_bind] at herror
  cases hrows : (marker.rowTexts r sources).run.run memory with
  | mk result middle =>
      rw [hrows] at herror
      cases result with
      | error e' =>
          cases herror
          exact place.stops_of_rowTexts (by rw [hrows])
      | ok rows =>
          rcases Prod.mk.inj herror with ⟨hlayout, -⟩
          cases hshort : Section.shortage? marker.frameTop marker.frameBottom place.slot with
          | none =>
              rw [Section.layout_eq hshort rows] at hlayout
              cases hlayout
          | some e' =>
              have he : e' = e := by simpa [Section.layout, hshort] using hlayout
              subst he
              exact place.stops_of_shortage hshort

/-- A splice in the place of a marker fails only for want of room on a new page. -/
theorem splice_eq_error (place : FirstMarker report marker)
    (hfits : ∀ page ∈ report.pages, page.Fits) {lines : List Line}
    (herror : (place.without.splice place.before.length place.above.length lines).1 = .error e) :
    (report.nextPage false).capacity = some 0 ∧
      e = .insufficientSpace (report.lastPageNumber + 1) .pageWithoutContent := by
  by_cases hroom : place.HasRoom lines
  · rw [place.splice_eq hfits hroom] at herror
    cases herror
  · rcases not_or.mp hroom with ⟨hsome, hfull⟩
    have hfull : (report.nextPage false).capacity = some 0 := not_not.mp hfull
    have hstop := Report.splice_eq_error place.pages_without (place.fits_later hfits) rfl
      (place.fits_rest hfits) lines hsome hfull
    rw [hstop] at herror
    exact ⟨hfull, (Except.error.inj herror).symm⟩

/-- With one marker replaced by static lines, the other markers of the report are left. -/
theorem markers_replaced (place : FirstMarker report marker) {lines : List Line}
    (hstatic : Static lines) (hroom : place.HasRoom lines) :
    report.contents.filter Line.isMarker =
      marker :: (place.replaced lines).contents.filter Line.isMarker := by
  rw [place.contents_eq, place.contents_replaced hroom, List.filter_append, List.filter_append,
    List.filter_append, filter_isMarker_eq_nil place.static_ahead, filter_isMarker_eq_nil hstatic,
    List.filter_cons_of_pos place.isMarker]
  rfl

end FirstMarker

/-! ## Steps of an expansion -/

/-- What the first step of an expansion does: nothing if all lines are static, else it stops at the
first marker, or it puts static lines in its place and goes on. -/
theorem firstStep_cases {report : Report} (hreachable : report.Reachable) (r : Resolver)
    (sources : List Source) (memory : Memory) :
    (Static report.contents ∧ ∀ count,
      report.expandFirst r sources (count + 1) memory = ⟨report, memory, .ok ()⟩) ∨
    ∃ (marker : Line) (place : FirstMarker report marker),
      (∃ (stopped : Expansion) (e : FillError), place.Stops r sources e ∧
        stopped.outcome = .error e ∧
        ∀ count, report.expandFirst r sources (count + 1) memory = stopped) ∨
      ∃ (lines : List Line) (memory' : Memory), Static lines ∧ place.HasRoom lines ∧
        (place.replaced lines).Reachable ∧
        ∀ count, report.expandFirst r sources (count + 1) memory =
          (place.replaced lines).expandFirst r sources count memory' := by
  cases htake : report.takeMarker? with
  | none =>
      refine .inl ⟨takeMarker?_eq_none_iff.mp htake, fun count => ?_⟩
      simp only [expandFirst, htake]
  | some taken =>
      rcases taken with ⟨index, slot, marker, rest⟩
      rcases takeMarker?_eq_some htake with ⟨place, rfl, rfl, rfl⟩
      refine .inr ⟨marker, place, ?_⟩
      cases hlines : (marker.sectionLines r sources place.slot).run.run memory with
      | mk result memory' =>
          cases result with
          | error e =>
              refine .inl ⟨⟨place.without, memory', .error e⟩, e,
                place.stops_of_sectionLines hlines, rfl, fun count => ?_⟩
              simp only [expandFirst, htake, hlines]
              rfl
          | ok lines =>
              cases hsplice : place.without.splice place.before.length place.above.length lines with
              | mk outcome report' =>
                  have hspliced : (report.setPage place.before.length place.rest).splice
                      place.before.length place.slot.offset lines = (outcome, report') := hsplice
                  cases outcome with
                  | error e =>
                      rcases place.splice_eq_error hreachable.fits (congrArg Prod.fst hsplice) with
                        ⟨hfull, rfl⟩
                      refine .inl ⟨⟨report', memory', .error _⟩, _, .newPage hfull, rfl,
                        fun count => ?_⟩
                      simp only [expandFirst, htake, hlines, hspliced]
                  | ok _ =>
                      rcases place.hasRoom_of_splice hreachable.fits hsplice with ⟨hroom, rfl⟩
                      refine .inr ⟨lines, memory',
                        Line.static_of_sectionLines place.isMarker hlines, hroom,
                        hreachable.step htake hlines hspliced, fun count => ?_⟩
                      simp only [expandFirst, htake, hlines, hspliced]

/-- An expansion that may take more steps than there are markers is the same. -/
theorem expandFirst_of_le {report : Report} (hreachable : report.Reachable) (r : Resolver)
    (sources : List Source) (memory : Memory) {count : Nat} (hcount : report.markerCount ≤ count) :
    report.expandFirst r sources count memory = report.expand r sources memory := by
  unfold expand
  induction count generalizing report memory with
  | zero => rw [Nat.le_zero.mp hcount]
  | succ count ih =>
      rcases firstStep_cases hreachable r sources memory with
        ⟨hstatic, hend⟩ | ⟨marker, place, ⟨stopped, e, -, -, hend⟩ |
          ⟨lines, memory', hstatic, hroom, hrest, hnext⟩⟩
      · have hnone : report.markerCount = 0 := static_iff_countP_eq_zero.mp hstatic
        rw [hend, hnone]
        rfl
      · have hsome : report.markerCount ≠ 0 := fun hnone => by
          have hstatic : Static report.contents := static_iff_countP_eq_zero.mpr hnone
          have hmarker := hstatic marker (by simp [place.contents_eq])
          rw [place.isMarker] at hmarker
          contradiction
        rcases Nat.exists_eq_succ_of_ne_zero hsome with ⟨fewer, hfewer⟩
        rw [hend, hfewer, hend]
      · have hfewer := markerCount_replaced place hstatic hroom
        rw [hnext, hfewer, hnext]
        exact ih hrest memory' (by omega)

/-- A report has no marker exactly if its content is static. -/
theorem hasMarkers_eq_false_iff {report : Report} :
    report.hasMarkers = false ↔ Static report.contents := by
  simp only [hasMarkers, List.any_eq_false, Bool.not_eq_true, Option.isSome_eq_false_iff,
    Option.isNone_iff_eq_none, Page.markerIndex?_eq_none_iff, contents, Static, List.mem_flatMap]
  constructor
  · rintro hpages line ⟨page, hpage, hline⟩
    exact hpages page hpage line hline
  · intro hstatic page hpage line hline
    exact hstatic line ⟨page, hpage, hline⟩

/-- A run ends with a report without markers. -/
theorem Expands.static_contents {r : Resolver} {sources : List Source} {report final : Report}
    {memory last : Memory} {log : List (Line × List Line)}
    (hrun : Expands r sources report memory log final last) : Static final.contents := by
  induction hrun with
  | done htake => exact takeMarker?_eq_none_iff.mp htake
  | step _ _ _ _ ih => exact ih

/-- An expansion that fails has expanded all markers before some marker and stops at that one. -/
theorem exists_stop {report : Report} (hreachable : report.Reachable) {r : Resolver}
    {sources : List Source} {count : Nat} {memory : Memory} {e : FillError}
    (herror : (report.expandFirst r sources count memory).outcome = .error e) :
    ∃ k < count, ∃ (marker : Line)
      (place : FirstMarker (report.expandFirst r sources k memory).report marker),
      (report.expandFirst r sources k memory).outcome = .ok () ∧
      (report.contents.filter Line.isMarker)[k]? = some marker ∧ place.Stops r sources e := by
  induction count generalizing report memory with
  | zero => cases herror
  | succ count ih =>
      rcases firstStep_cases hreachable r sources memory with
        ⟨-, hend⟩ | ⟨marker, place, ⟨stopped, e', hstops, hstopped, hend⟩ |
          ⟨lines, memory', hstatic, hroom, hrest, hnext⟩⟩
      · rw [hend] at herror
        cases herror
      · rw [hend, hstopped] at herror
        cases herror
        refine ⟨0, Nat.succ_pos count, marker, place, rfl, ?_, hstops⟩
        rw [place.contents_eq, List.filter_append, filter_isMarker_eq_nil place.static_ahead,
          List.filter_cons_of_pos place.isMarker]
        rfl
      · rw [hnext] at herror
        rcases ih hrest herror with ⟨k, hk, later, stop, hok, hlater, hstops⟩
        refine ⟨k + 1, Nat.succ_lt_succ hk, ?_⟩
        rw [hnext, place.markers_replaced hstatic hroom]
        exact ⟨later, stop, hok, hlater, hstops⟩

end Report

/-- While a section is laid out, every empty line and every row finds its page. -/
theorem Section.sheet_takes {header footer : List String} {slot : Slot}
    (hroom : shortage? header footer slot = none) (rows : List String) :
    let blanks := appendBlanks ((sheet header footer slot).newPage false) (spacers slot)
    blanks.1 = .ok () ∧ (blanks.2.appendTexts rows).1 = .ok () := by
  intro blanks
  have hgrowing := growing_sheet hroom
  have hblanks := Report.appendAll_eq_reflowed hgrowing
    (List.replicate (spacers slot) Line.blank)
  have hlines := Report.appendAll_eq_reflowed hgrowing
    (List.replicate (spacers slot) Line.blank ++ rows.map Line.ofText)
  rw [Report.appendAll_append, hblanks] at hlines
  have heq : blanks = _ := (Report.appendBlanks_eq_appendAll _ _).trans hblanks
  rw [heq, Report.appendTexts_eq_appendAll]
  exact ⟨rfl, congrArg Prod.fst hlines⟩

namespace Report

/-- An expansion of a reachable report ends after at most as many steps as there are markers: more
steps change nothing.  If it succeeds no marker is left, and each was expanded once, in the order of
the document.  If it fails, all markers before some marker have been expanded and it stops at that
one, for one of the documented reasons.  Neither in the layout of a section nor in the report is a
line ever refused by a page. -/
theorem expand_ends {report : Report} (hreachable : report.Reachable) (r : Resolver)
    (sources : List Source) (memory : Memory) :
    let done := report.expand r sources memory
    let markers := report.contents.filter Line.isMarker
    (∀ count, markers.length ≤ count → report.expandFirst r sources count memory = done) ∧
    (done.outcome = .ok () → done.report.hasMarkers = false ∧
      ∃ log, Expands r sources report memory log done.report done.memory ∧
        log.map Prod.fst = markers) ∧
    (∀ e, done.outcome = .error e →
      (∃ k < markers.length, ∃ (marker : Line)
        (place : FirstMarker (report.expandFirst r sources k memory).report marker),
        (report.expandFirst r sources k memory).outcome = .ok () ∧ markers[k]? = some marker ∧
          place.Stops r sources e) ∧
      (∀ cause, e ≠ .document cause) ∧ ∀ page, e ≠ .insufficientSpace page .sectionWithoutRows) ∧
    ∀ (k : Nat) (marker : Line)
      (place : FirstMarker (report.expandFirst r sources k memory).report marker)
      (rows : List String) (lines : List Line),
      (Section.shortage? marker.frameTop marker.frameBottom place.slot = none →
        let blanks := Section.appendBlanks
          ((Section.sheet marker.frameTop marker.frameBottom place.slot).newPage false)
          (Section.spacers place.slot)
        blanks.1 = .ok () ∧ (blanks.2.appendTexts rows).1 = .ok ()) ∧
      ∀ cause, (place.without.splice place.before.length place.above.length lines).1 ≠
        .error (.document cause) := by
  intro done markers
  have hcount : markers.length = report.markerCount := List.countP_eq_length_filter.symm
  refine ⟨?_, ?_, ?_, ?_⟩
  · intro count hle
    exact expandFirst_of_le hreachable r sources memory (hcount ▸ hle)
  · intro hok
    rcases expand_run hreachable r sources memory hok with ⟨log, hrun⟩
    exact ⟨hasMarkers_eq_false_iff.mpr hrun.static_contents, log, hrun,
      (hrun.contents_eq hreachable).1⟩
  · intro e herror
    rcases exists_stop hreachable herror with ⟨k, hk, marker, place, hok, hmarker, hstops⟩
    exact ⟨⟨k, hcount ▸ hk, marker, place, hok, hmarker, hstops⟩, hstops.documented⟩
  · intro k marker place rows lines
    refine ⟨fun hroom => Section.sheet_takes hroom rows, ?_⟩
    intro cause herror
    have hfits := (hreachable.expandFirst r sources k memory).fits
    rcases place.splice_eq_error hfits herror with ⟨-, hkind⟩
    cases hkind

/-- Two lists, of which the sources know the rows of the first only. -/
def knownAndUnknown : Report :=
  let first := ((bounded 2).append (Line.ofListing { source := "items", template := "x" }) false).2
  (first.append (Line.ofListing { source := "others", template := "x" }) false).2

/-- The expansion stops at the second list, when the first one was expanded. -/
theorem knownAndUnknown_stops :
    let unknown : FillError := .invalidPlaceholder "others" (.missingMember "others")
    (knownAndUnknown.expand .scriptless threeItems []).outcome = .error unknown ∧
      (knownAndUnknown.expandFirst .scriptless threeItems 5 []).outcome = .error unknown ∧
      ∃ k < 2, ∃ (marker : Line) (place : FirstMarker
        (knownAndUnknown.expandFirst .scriptless threeItems k []).report marker),
        (knownAndUnknown.expandFirst .scriptless threeItems k []).outcome = .ok () ∧
        place.Stops .scriptless threeItems unknown := by
  intro unknown
  have hreachable : knownAndUnknown.Reachable := .append _ _ (.append _ _ (.new _))
  have herror : (knownAndUnknown.expand .scriptless threeItems []).outcome = .error unknown := by
    rfl
  rcases expand_ends hreachable .scriptless threeItems [] with ⟨hmore, -, hfail, -⟩
  rcases (hfail _ herror).1 with ⟨k, hk, marker, place, hok, -, hstops⟩
  exact ⟨herror, by rw [hmore 5 (by decide), herror], k, hk, marker, place, hok, hstops⟩

end Report

end Platen
