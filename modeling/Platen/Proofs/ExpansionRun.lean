import Platen.Proofs.Memory
import Platen.Proofs.Reachable
import Platen.Proofs.Section

/-!
# Expansion step by step

An expansion takes out one marker after the other.  This module describes one step, relates a whole
expansion to a run of such steps, and says what a run does to the lines of a report.

Main results:

- Theorem `Line.sectionLines_eq`: the lines that take the place of a marker are its rows, laid out
  between its header and footer.
- Theorem `Report.sound_expandFirst`: an expansion remembers nothing that would not be read again.
- Theorem `Report.expand_run`: an expansion that succeeds is a run that replaces every marker.
- Theorem `Report.Expands.contents_eq`: a run puts the sections in the places of their markers and
  leaves all other lines in their order.
-/

namespace Platen

/-! ## Section lines -/

namespace Line

/-- What is printed above the rows of a marker. -/
def frameTop (line : Line) : List String :=
  match line.content with
  | .table table => table.frameTop
  | .list listing => listing.header
  | .text _ | .empty => []

/-- What is printed below the rows of a marker. -/
def frameBottom (line : Line) : List String :=
  match line.content with
  | .table table => table.frameBottom
  | .list listing => listing.footer
  | .text _ | .empty => []

/-- The lines that take the place of a marker are its rows between its header and footer. -/
theorem sectionLines_eq {line : Line} (hmarker : line.isMarker = true) (r : Resolver)
    (sources : List Source) (slot : Slot) :
    line.sectionLines r sources slot = (do
      let rows ← line.rowTexts r sources
      Section.layout line.frameTop line.frameBottom rows slot) := by
  unfold sectionLines rowTexts rowValues frameTop frameBottom
  cases hcontent : line.content with
  | table table => simp only [bind_assoc]
  | list listing => simp only [bind_assoc]
  | text s => simp [isMarker, hcontent] at hmarker
  | empty => simp [isMarker, hcontent] at hmarker

/-- A marker whose rows are known and whose section has room is replaced by the blocks of the
section. -/
theorem run_sectionLines {line : Line} (hmarker : line.isMarker = true) {r : Resolver}
    {sources : List Source} {slot : Slot} {rows : List String} {memory after : Memory}
    (hrows : (line.rowTexts r sources).run.run memory = (.ok rows, after))
    (hroom : Section.shortage? line.frameTop line.frameBottom slot = none) :
    (line.sectionLines r sources slot).run.run memory =
      (.ok (Section.blocks line.frameTop line.frameBottom rows slot).flatten, after) := by
  rw [sectionLines_eq hmarker, run_bind, hrows]
  simp only [Section.layout_eq hroom rows]
  rfl

/-- Whatever replaces a marker was laid out from its rows. -/
theorem sectionLines_ok {line : Line} (hmarker : line.isMarker = true) {r : Resolver}
    {sources : List Source} {slot : Slot} {lines : List Line} {memory after : Memory}
    (hlines : (line.sectionLines r sources slot).run.run memory = (.ok lines, after)) :
    ∃ rows, (line.rowTexts r sources).run.run memory = (.ok rows, after) ∧
      Section.shortage? line.frameTop line.frameBottom slot = none ∧
      lines = (Section.blocks line.frameTop line.frameBottom rows slot).flatten := by
  rw [sectionLines_eq hmarker] at hlines
  rcases run_bind_ok hlines with ⟨rows, after', hrows, hlayout⟩
  rcases Prod.mk.inj hlayout with ⟨hresult, rfl⟩
  have hroom : Section.shortage? line.frameTop line.frameBottom slot = none := by
    cases hshort : Section.shortage? line.frameTop line.frameBottom slot with
    | none => rfl
    | some e => simp [Section.layout, hshort] at hresult
  rw [Section.layout_eq hroom rows] at hresult
  exact ⟨rows, hrows, hroom, (Except.ok.inj hresult).symm⟩

/-- What replaces a marker does not depend on what is remembered. -/
theorem transparent_sectionLines (line : Line) (r : Resolver) (sources : List Source)
    (slot : Slot) : Transparent (line.sectionLines r sources slot) := by
  by_cases hmarker : line.isMarker = true
  · rw [sectionLines_eq hmarker]
    exact (line.transparent_rowTexts r sources).bind fun _ => .lift _
  · unfold sectionLines
    cases hcontent : line.content with
    | table table => simp [isMarker, hcontent] at hmarker
    | list listing => simp [isMarker, hcontent] at hmarker
    | text s => exact .pure _
    | empty => exact .pure _

/-- There are no markers among the lines that replace one. -/
theorem static_of_sectionLines {line : Line} (hmarker : line.isMarker = true) {r : Resolver}
    {sources : List Source} {slot : Slot} {lines : List Line} {memory after : Memory}
    (hlines : (line.sectionLines r sources slot).run.run memory = (.ok lines, after)) :
    Static lines := by
  rcases sectionLines_ok hmarker hlines with ⟨rows, -, -, rfl⟩
  intro text htext
  rcases List.mem_flatten.mp htext with ⟨block, hblock, htext⟩
  exact Section.static_of_mem_blocks hblock text htext

end Line

/-! ## Sections in the places of markers -/

/-- Lines with sections in the places of their markers, first to last. -/
def fillMarkers : List Line → List (List Line) → List Line
  | [], _ => []
  | line :: rest, sections =>
      if line.isMarker then sections.headD [] ++ fillMarkers rest sections.tail
      else line :: fillMarkers rest sections

theorem fillMarkers_append_of_static {front : List Line} (hstatic : Static front)
    (back : List Line) (sections : List (List Line)) :
    fillMarkers (front ++ back) sections = front ++ fillMarkers back sections := by
  induction front with
  | nil => rfl
  | cons line front ih =>
      rcases List.forall_mem_cons.mp hstatic with ⟨hline, hfront⟩
      rw [List.cons_append, fillMarkers, if_neg (by simp [hline]), ih hfront, List.cons_append]

/-- Static lines have no place for a section. -/
theorem fillMarkers_of_static {lines : List Line} (hstatic : Static lines)
    (sections : List (List Line)) : fillMarkers lines sections = lines := by
  have hfill := fillMarkers_append_of_static hstatic [] sections
  rw [List.append_nil] at hfill
  rw [hfill, fillMarkers, List.append_nil]

/-- The first section takes the place of the first marker. -/
theorem fillMarkers_first {front : List Line} {marker : Line} (hfront : Static front)
    (hmarker : marker.isMarker = true) (back : List Line) {lines : List Line}
    (hlines : Static lines) (sections : List (List Line)) :
    fillMarkers (front ++ marker :: back) (lines :: sections) =
      fillMarkers (front ++ (lines ++ back)) sections := by
  rw [fillMarkers_append_of_static hfront, fillMarkers_append_of_static hfront,
    fillMarkers_append_of_static hlines, fillMarkers, if_pos hmarker]
  rfl

namespace Report

/-! ## One step -/

namespace FirstMarker

variable {report : Report} {marker : Line}

/-- The report without its first marker. -/
def without (place : FirstMarker report marker) : Report :=
  report.setPage place.before.length place.rest

theorem pages_without (place : FirstMarker report marker) :
    place.without.pages = place.before ++ place.rest :: place.later := by
  simp [without, setPage, place.pages_eq]

/-- The lines before the first marker, on its page and on earlier ones. -/
def ahead (place : FirstMarker report marker) : List Line :=
  place.before.flatMap Page.content ++ place.above

/-- The lines after the first marker. -/
def behind (place : FirstMarker report marker) : List Line :=
  place.below ++ place.later.flatMap Page.content

theorem static_ahead (place : FirstMarker report marker) : Static place.ahead :=
  static_append.mpr ⟨place.static_before, place.static_above⟩

theorem contents_eq (place : FirstMarker report marker) :
    report.contents = place.ahead ++ marker :: place.behind := by
  simp [contents, place.pages_eq, place.content_eq, ahead, behind]

theorem fits_rest (place : FirstMarker report marker) (hfits : ∀ page ∈ report.pages, page.Fits) :
    place.rest.Fits := by
  have hpage : place.page.Fits := hfits place.page (by simp [place.pages_eq])
  exact hpage.remove (remove_of_content_eq place.content_eq)

theorem fits_later (place : FirstMarker report marker) (hfits : ∀ page ∈ report.pages, page.Fits) :
    ∀ page ∈ place.later, page.Fits := by
  intro page hpage
  exact hfits page (by simp [place.pages_eq, hpage])

/-- The lines of the marker's page when others stand in its place. -/
def refilled (place : FirstMarker report marker) (lines : List Line) : List Line :=
  place.above ++ (lines ++ place.below)

/-- The report with lines in the place of its first marker. -/
def replaced (place : FirstMarker report marker) (lines : List Line) : Report :=
  place.without.reflowed place.before place.rest place.later (place.refilled lines)

theorem pages_replaced (place : FirstMarker report marker) (lines : List Line) :
    (place.replaced lines).pages = place.before ++
      place.rest.refill (place.refilled lines) ::
        (reflow (place.rest.spill (place.refilled lines)) place.later ++
          place.without.newPages (surplus place.rest place.later (place.refilled lines))) := by
  rw [replaced, reflowed, poured, List.append_assoc]
  rfl

/-- Whether lines in the place of the first marker find room. -/
def HasRoom (place : FirstMarker report marker) (lines : List Line) : Prop :=
  surplus place.rest place.later (place.refilled lines) = [] ∨
    (report.nextPage false).capacity ≠ some 0

/-- Lines that find room take the place of the marker. -/
theorem splice_eq (place : FirstMarker report marker) (hfits : ∀ page ∈ report.pages, page.Fits)
    {lines : List Line} (hroom : place.HasRoom lines) :
    place.without.splice place.before.length place.above.length lines =
      (.ok (), place.replaced lines) :=
  splice_eq_reflowed place.pages_without (place.fits_later hfits) rfl (place.fits_rest hfits) lines
    hroom

/-- Lines take the place of the marker only if they find room. -/
theorem hasRoom_of_splice (place : FirstMarker report marker)
    (hfits : ∀ page ∈ report.pages, page.Fits) {lines : List Line} {report' : Report}
    (hsplice : place.without.splice place.before.length place.above.length lines =
      (.ok (), report')) : place.HasRoom lines ∧ report' = place.replaced lines := by
  have hroom : place.HasRoom lines := by
    have hiff := splice_ok_iff place.pages_without (place.fits_later hfits) rfl
      (place.fits_rest hfits) lines
    rw [hsplice] at hiff
    exact hiff.mp rfl
  rw [place.splice_eq hfits hroom] at hsplice
  exact ⟨hroom, (Prod.mk.inj hsplice).2.symm⟩

/-- The lines of the report after lines took the place of its first marker. -/
theorem contents_replaced (place : FirstMarker report marker) {lines : List Line}
    (hroom : place.HasRoom lines) :
    (place.replaced lines).contents = place.ahead ++ (lines ++ place.behind) := by
  have hplaced : surplus place.rest place.later (place.refilled lines) = [] ∨
      (place.without.nextPage false).capacity ≠ some 0 := hroom
  rw [replaced, reflowed, contents_poured hplaced, List.flatMap_append, List.flatMap_singleton,
    List.append_assoc, ← List.append_assoc (place.rest.refill _).content,
    Page.content_refill_append_spill, refilled, ahead, behind]
  simp only [List.append_assoc]

end FirstMarker

/-! ## Whole runs -/

/-- An expansion leaves a sound memory behind if it starts from one, wherever it ends. -/
theorem sound_expandFirst (report : Report) (r : Resolver) (sources : List Source) (count : Nat)
    {memory : Memory} (hsound : memory.Sound) :
    (report.expandFirst r sources count memory).memory.Sound := by
  induction count generalizing report memory with
  | zero => exact hsound
  | succ count ih =>
      simp only [expandFirst]
      split
      · exact hsound
      · rename_i index slot marker rest htake
        have hafter := (marker.transparent_sectionLines r sources slot memory hsound).2
        split
        · rename_i e memory' hlines
          rw [hlines] at hafter
          exact hafter
        · rename_i lines memory' hlines
          rw [hlines] at hafter
          split
          · exact hafter
          · exact ih _ hafter

/-- The steps of an expansion that replaces every marker, with each marker and its section. -/
inductive Expands (r : Resolver) (sources : List Source) :
    Report → Memory → List (Line × List Line) → Report → Memory → Prop
  | done {report : Report} {memory : Memory} :
      report.takeMarker? = none → Expands r sources report memory [] report memory
  | step {report rest report' final : Report} {memory memory' last : Memory} {index : Nat}
      {slot : Slot} {marker : Line} {lines : List Line} {log : List (Line × List Line)} :
      report.takeMarker? = some (index, slot, marker, rest) →
      (marker.sectionLines r sources slot).run.run memory = (.ok lines, memory') →
      rest.splice index slot.offset lines = (.ok (), report') →
      Expands r sources report' memory' log final last →
      Expands r sources report memory ((marker, lines) :: log) final last

/-- A step of an expansion puts static lines in the place of the first marker. -/
theorem step_eq {report rest report' : Report} (hfits : ∀ page ∈ report.pages, page.Fits)
    {r : Resolver} {sources : List Source} {memory memory' : Memory} {index : Nat} {slot : Slot}
    {marker : Line} {lines : List Line}
    (htake : report.takeMarker? = some (index, slot, marker, rest))
    (hlines : (marker.sectionLines r sources slot).run.run memory = (.ok lines, memory'))
    (hsplice : rest.splice index slot.offset lines = (.ok (), report')) :
    ∃ place : FirstMarker report marker,
      Static lines ∧ place.HasRoom lines ∧ report' = place.replaced lines := by
  rcases takeMarker?_eq_some htake with ⟨place, rfl, rfl, rfl⟩
  rcases place.hasRoom_of_splice hfits hsplice with ⟨hroom, hresult⟩
  exact ⟨place, Line.static_of_sectionLines place.isMarker hlines, hroom, hresult⟩

/-- Every step of an expansion leaves one marker less. -/
theorem markerCount_replaced {report : Report} {marker : Line} (place : FirstMarker report marker)
    {lines : List Line} (hstatic : Static lines) (hroom : place.HasRoom lines) :
    report.markerCount = (place.replaced lines).markerCount + 1 := by
  have hbefore := congrArg (List.countP Line.isMarker) place.contents_eq
  have hafter := congrArg (List.countP Line.isMarker) (place.contents_replaced hroom)
  simp only [List.countP_append, List.countP_cons, place.isMarker, if_true,
    static_iff_countP_eq_zero.mp hstatic] at hbefore hafter
  simp only [markerCount]
  simp only [contents] at hbefore hafter
  rw [hbefore, hafter]
  omega

/-- The report after a step of an expansion is reachable. -/
theorem Reachable.step {report rest report' : Report} (hreachable : report.Reachable)
    {r : Resolver} {sources : List Source} {memory memory' : Memory} {index : Nat} {slot : Slot}
    {marker : Line} {lines : List Line}
    (htake : report.takeMarker? = some (index, slot, marker, rest))
    (hlines : (marker.sectionLines r sources slot).run.run memory = (.ok lines, memory'))
    (hsplice : rest.splice index slot.offset lines = (.ok (), report')) : report'.Reachable := by
  have hone := hreachable.expandFirst r sources 1 memory
  simpa only [Report.expandFirst, htake, hlines, hsplice] using hone

/-- An expansion of as many markers as there are that succeeds is a run. -/
theorem expands_of_ok {report : Report} (hreachable : report.Reachable) (r : Resolver)
    (sources : List Source) (count : Nat) (memory : Memory) (hcount : report.markerCount ≤ count)
    (hok : (report.expandFirst r sources count memory).outcome = .ok ()) :
    ∃ log, Expands r sources report memory log
      (report.expandFirst r sources count memory).report
      (report.expandFirst r sources count memory).memory := by
  induction count generalizing report memory with
  | zero =>
      refine ⟨[], .done ?_⟩
      rw [takeMarker?_eq_none_iff]
      exact static_iff_countP_eq_zero.mpr (Nat.le_zero.mp hcount)
  | succ count ih =>
      cases htake : report.takeMarker? with
      | none =>
          refine ⟨[], ?_⟩
          simp only [expandFirst, htake]
          exact .done htake
      | some taken =>
          rcases taken with ⟨index, slot, marker, rest⟩
          cases hlines : (marker.sectionLines r sources slot).run.run memory with
          | mk result memory' =>
              cases result with
              | error e => simp [expandFirst, htake, hlines] at hok
              | ok lines =>
                  cases hsplice : rest.splice index slot.offset lines with
                  | mk outcome report' =>
                      cases outcome with
                      | error e => simp [expandFirst, htake, hlines, hsplice] at hok
                      | ok _ =>
                          simp only [expandFirst, htake, hlines, hsplice] at hok ⊢
                          rcases step_eq hreachable.fits htake hlines hsplice with
                            ⟨place, hstatic, hroom, rfl⟩
                          have hfewer := markerCount_replaced place hstatic hroom
                          rcases ih (hreachable.step htake hlines hsplice) memory'
                            (by omega) hok with ⟨log, hrun⟩
                          exact ⟨(marker, lines) :: log, .step htake hlines hsplice hrun⟩

/-- An expansion that succeeds is a run that replaces every marker. -/
theorem expand_run {report : Report} (hreachable : report.Reachable) (r : Resolver)
    (sources : List Source) (memory : Memory)
    (hok : (report.expand r sources memory).outcome = .ok ()) :
    ∃ log, Expands r sources report memory log (report.expand r sources memory).report
      (report.expand r sources memory).memory :=
  expands_of_ok hreachable r sources report.markerCount memory (Nat.le_refl _) hok

/-- A run puts the sections in the places of their markers, first to last, and leaves all other
lines in their order. -/
theorem Expands.contents_eq {r : Resolver} {sources : List Source} {report final : Report}
    {memory last : Memory} {log : List (Line × List Line)}
    (hrun : Expands r sources report memory log final last) (hreachable : report.Reachable) :
    log.map Prod.fst = report.contents.filter Line.isMarker ∧
      final.contents = fillMarkers report.contents (log.map Prod.snd) := by
  induction hrun with
  | done htake =>
      have hstatic := takeMarker?_eq_none_iff.mp htake
      rw [filter_isMarker_eq_nil hstatic, fillMarkers_of_static hstatic]
      exact ⟨rfl, rfl⟩
  | step htake hlines hsplice hrest ih =>
      rcases ih (hreachable.step htake hlines hsplice) with ⟨hmarkers, hfilled⟩
      rcases step_eq hreachable.fits htake hlines hsplice with ⟨place, hstatic, hroom, rfl⟩
      rw [place.contents_replaced hroom] at hmarkers hfilled
      rw [place.contents_eq]
      constructor
      · rw [List.map_cons, hmarkers, List.filter_append, List.filter_append, List.filter_append,
          filter_isMarker_eq_nil place.static_ahead, filter_isMarker_eq_nil hstatic,
          List.filter_cons_of_pos place.isMarker]
        rfl
      · rw [List.map_cons, fillMarkers_first place.static_ahead place.isMarker _ hstatic, hfilled]

/-- A source with three items. -/
def threeItems : List Source :=
  [.keyed [("items", .list [.int 1, .int 2, .int 3])]]

end Report

end Platen
