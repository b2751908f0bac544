import Platen.Proofs.ExpansionRun
import Platen.Proofs.Pagination

/-!
# Expanding is appending the rows

A report can be paginated in two ways: its markers are appended and expanded later, or the rows are
appended in their places at once.  This module proves that both give the same report if no section
has a header, a footer or a border and every section has a row.

Main results:

- Theorem `Report.replaced_paged`: in a report that was appended to without breaks, lines in the
  place of the first marker give the report to which these lines were appended.
- Theorem `Report.expandFirst_paged`: so does an expansion of all markers.
- Theorem `Report.expand_eq_append`: expanding a report gives the report to which the rows were
  appended.
-/

namespace Platen

namespace Line

/-! ## Markers without a frame -/

/-- Whether a line is a marker of a table or list without header, footer and border. -/
def IsBare (line : Line) : Prop :=
  match line.content with
  | .table table => table.border = false ∧ table.header = [] ∧ table.footer = []
  | .list listing => listing.header = [] ∧ listing.footer = []
  | .text _ | .empty => False

/-- A marker without a frame has at least one row, and all its rows are rendered. -/
structure Expandable (line : Line) (r : Resolver) (sources : List Source) : Prop where
  bare : line.IsBare
  values : ∃ row rows, line.rowValues sources = .ok (row :: rows)
  texts : ∃ texts, ((line.rowTexts r sources).run.run []).1 = .ok texts

/-- What a line shows: the rows of a marker, and any other line itself. -/
def shown (line : Line) (r : Resolver) (sources : List Source) : List Line :=
  if line.isMarker then
    match ((line.rowTexts r sources).run.run []).1 with
    | .ok texts => texts.map Line.ofText
    | .error _ => []
  else [line]

/-- Nothing is printed above and below the rows of a marker without a frame. -/
theorem IsBare.frame_eq {line : Line} (hbare : line.IsBare) :
    line.frameTop = [] ∧ line.frameBottom = [] := by
  unfold IsBare at hbare
  unfold frameTop frameBottom
  cases hcontent : line.content with
  | table table =>
      simp only [hcontent] at hbare
      rcases hbare with ⟨hborder, hheader, hfooter⟩
      simp [Table.frameTop, Table.frameBottom, hborder, hheader, hfooter]
  | list listing =>
      simp only [hcontent] at hbare
      exact hbare
  | text s => exact ⟨rfl, rfl⟩
  | empty => exact ⟨rfl, rfl⟩

/-- A marker with a row shows a line. -/
theorem rowTexts_ne_nil {line : Line} (hmarker : line.isMarker = true) {r : Resolver}
    {sources : List Source} {row : Value} {rows : List Value} {texts : List String}
    {memory after : Memory} (hvalues : line.rowValues sources = .ok (row :: rows))
    (htexts : (line.rowTexts r sources).run.run memory = (.ok texts, after)) : texts ≠ [] := by
  unfold rowTexts at htexts
  rcases run_bind_ok htexts with ⟨values, middle, hrun, hlines⟩
  rw [hvalues, run_liftM] at hrun
  cases hrun
  cases hcontent : line.content with
  | table table =>
      simp only [hcontent] at hlines
      rcases run_bind_ok hlines with ⟨cells, _, -, hrest⟩
      rcases run_bind_ok hrest with ⟨rest, _, -, hresult⟩
      cases hresult
      exact List.cons_ne_nil _ _
  | list listing =>
      simp only [hcontent] at hlines
      rcases run_bind_ok hlines with ⟨text, _, -, hrest⟩
      rcases run_bind_ok hrest with ⟨rest, _, -, hresult⟩
      cases hresult
      exact List.cons_ne_nil _ _
  | text s => simp [isMarker, hcontent] at hmarker
  | empty => simp [isMarker, hcontent] at hmarker

/-- Lines without markers are shown as they are. -/
theorem shown_of_static {lines : List Line} (hstatic : Static lines) (r : Resolver)
    (sources : List Source) : lines.flatMap (fun line => line.shown r sources) = lines := by
  induction lines with
  | nil => rfl
  | cons line lines ih =>
      rcases List.forall_mem_cons.mp hstatic with ⟨hline, hlines⟩
      rw [List.flatMap_cons, ih hlines, shown, if_neg (by simp [hline])]
      rfl

end Line

/-- A section without header and footer consists of its rows. -/
theorem Section.flatten_blocks {slot : Slot} (hroom : shortage? [] [] slot = none)
    (rows : List String) : (blocks [] [] rows slot).flatten = rows.map Line.ofText := by
  have hframed : framed [] [] = List.map Line.ofText := by
    funext chunk
    simp [framed]
  rw [blocks, hframed, ← List.map_flatten, flatten_rowChunks hroom]

namespace Report

/-! ## Reports that were appended to without breaks -/

/-- The report to whose pages lines were appended, cut into new pages. -/
def paged (base : Report) (lines : List Line) : Report :=
  base.poured [] lines []

section

variable {base : Report} {items : List Line}

attribute [ext] Report

/-- The lines are cut into new pages. -/
theorem pages_paged (base : Report) (items : List Line) :
    (base.paged items).pages = base.newPages items :=
  rfl

/-- Everything that is appended stands on the pages, in its order. -/
theorem contents_paged (hroom : (base.nextPage false).capacity ≠ some 0) (items : List Line) :
    (base.paged items).contents = items :=
  contents_newPages hroom items

/-- The markers of the report are those that were appended. -/
theorem markerCount_paged (hroom : (base.nextPage false).capacity ≠ some 0) (items : List Line) :
    (base.paged items).markerCount = items.countP Line.isMarker := by
  rw [markerCount, ← contents, contents_paged hroom]

/-- No page of such a report holds more than fits. -/
theorem fits_paged (hroom : (base.nextPage false).capacity ≠ some 0) :
    ∀ page ∈ (base.paged items).pages, page.Fits := by
  intro page hpage
  rcases mem_freshPages hpage with ⟨content, hcontent, n, rfl⟩
  exact (chunk_bounds hroom items content hcontent).2

/-- How the first marker of such a report cuts its lines: the chunks before the page of the marker,
and the lines from this page on. -/
structure CutAt {marker : Line} (place : FirstMarker (base.paged items) marker)
    (front : List (List Line)) (onward : List Line) : Prop where
  before_eq : place.before = base.freshPages (base.lastPageNumber + 1) front
  page_eq : place.page = base.seeded (base.lastPageNumber + 1 + front.length)
    (within (base.nextPage false).capacity onward)
  later_eq : place.later = base.freshPages (base.lastPageNumber + 1 + front.length + 1)
    (chunks (base.nextPage false).capacity (beyond (base.nextPage false).capacity onward))
  within_eq : within (base.nextPage false).capacity onward =
    place.above ++ marker :: place.below
  /-- The pages before the marker are full. -/
  chunks_eq : ∀ others : List Line,
    chunks (base.nextPage false).capacity (front.flatten ++ others) =
      front ++ chunks (base.nextPage false).capacity others

variable {marker : Line} {place : FirstMarker (base.paged items) marker}

/-- The first marker cuts the lines in this way. -/
theorem exists_cutAt (place : FirstMarker (base.paged items) marker)
    (hroom : (base.nextPage false).capacity ≠ some 0) :
    ∃ front onward, CutAt place front onward := by
  have hpages : base.freshPages (base.lastPageNumber + 1)
      (chunks (base.nextPage false).capacity items) =
      place.before ++ place.page :: place.later := place.pages_eq
  rcases freshPages_split hpages with ⟨front, content, back, hchunks, hbefore, hpage, hlater⟩
  rcases chunks_split hroom hchunks with ⟨onward, -, honward, happend⟩
  have hne : onward ≠ [] := by
    rintro rfl
    simp at honward
  rw [chunks_eq hroom hne, List.cons.injEq] at honward
  rcases honward with ⟨rfl, rfl⟩
  refine ⟨front, onward, hbefore, hpage, hlater, ?_, happend⟩
  rw [← place.content_eq, hpage]
  rfl

namespace CutAt

variable {front : List (List Line)} {onward lines : List Line}

/-- Ahead of a marker stand the full pages and what is above it. -/
theorem ahead_eq (hcut : CutAt place front onward) :
    place.ahead = front.flatten ++ place.above := by
  rw [FirstMarker.ahead, hcut.before_eq, contents_freshPages]

/-- Behind a marker stand what is below it and what did not fit. -/
theorem behind_eq (hcut : CutAt place front onward)
    (hroom : (base.nextPage false).capacity ≠ some 0) :
    place.behind = place.below ++ beyond (base.nextPage false).capacity onward := by
  rw [FirstMarker.behind, hcut.later_eq, contents_freshPages, flatten_chunks hroom]

/-- A page that is filled again takes what fits. -/
theorem refill_eq (hcut : CutAt place front onward) (content : List Line) :
    place.rest.refill content = base.seeded (base.lastPageNumber + 1 + front.length)
      (within (base.nextPage false).capacity content) := by
  rw [FirstMarker.rest, hcut.page_eq]
  rfl

/-- A page that is filled again leaves what does not fit. -/
theorem spill_eq (hcut : CutAt place front onward) (content : List Line) :
    place.rest.spill content = beyond (base.nextPage false).capacity content := by
  rw [FirstMarker.rest, hcut.page_eq]
  rfl

/-- New pages are numbered on from the last page of the report. -/
theorem newPages_eq (hcut : CutAt place front onward) (content : List Line) :
    place.without.newPages content =
      base.freshPages (base.lastPageNumber + 1 + front.length + 1 + place.later.length)
        (chunks (base.nextPage false).capacity content) := by
  have hlength : (base.newPages items).length = front.length + (place.later.length + 1) := by
    rw [← pages_paged, place.pages_eq, List.length_append, List.length_cons, hcut.before_eq,
      length_freshPages]
  have hnumber : base.lastPageNumber + (base.newPages items).length + 1 =
      base.lastPageNumber + 1 + front.length + 1 + place.later.length := by
    rw [hlength]
    omega
  rw [← hnumber]
  rfl

/-- The page of the marker is as full as it was when lines take the place of the marker. -/
theorem cut_refilled (hcut : CutAt place front onward) (hlines : lines ≠ []) :
    within (base.nextPage false).capacity
        (place.refilled lines ++ beyond (base.nextPage false).capacity onward) =
      within (base.nextPage false).capacity (place.refilled lines) ∧
    beyond (base.nextPage false).capacity
        (place.refilled lines ++ beyond (base.nextPage false).capacity onward) =
      beyond (base.nextPage false).capacity (place.refilled lines) ++
        beyond (base.nextPage false).capacity onward := by
  have hpos := List.length_pos_iff.mpr hlines
  have hlength : (within (base.nextPage false).capacity onward).length ≤
      (place.refilled lines).length := by
    rw [hcut.within_eq, FirstMarker.refilled]
    simp only [List.length_append, List.length_cons]
    omega
  exact cut_append (reach_of_beyond onward hlength)

end CutAt

/-- Lines in the place of the first marker give the pages to which these lines were appended.  All
pages before the marker are full, so the chunks from its page on are those of the lines from there
on. -/
theorem pages_replaced_paged (place : FirstMarker (base.paged items) marker)
    (hroom : (base.nextPage false).capacity ≠ some 0) {lines : List Line} (hlines : lines ≠ []) :
    (place.replaced lines).pages = base.newPages (place.ahead ++ (lines ++ place.behind)) := by
  rcases exists_cutAt place hroom with ⟨front, onward, hcut⟩
  rcases hcut.cut_refilled hlines with ⟨hwithin, hbeyond⟩
  have hall : place.ahead ++ (lines ++ place.behind) = front.flatten ++
      (place.refilled lines ++ beyond (base.nextPage false).capacity onward) := by
    simp only [hcut.ahead_eq, hcut.behind_eq hroom, FirstMarker.refilled, List.append_assoc]
  have hne : place.refilled lines ++ beyond (base.nextPage false).capacity onward ≠ [] := by
    intro hnil
    have hnone := (List.append_eq_nil_iff.mp hnil).1
    simp [FirstMarker.refilled, hlines] at hnone
  have hflow := reflow_freshPages hroom
    (beyond (base.nextPage false).capacity (place.refilled lines))
    (base.lastPageNumber + 1 + front.length + 1) (beyond (base.nextPage false).capacity onward)
  rw [← hcut.later_eq] at hflow
  -- the carried lines refill the pages after the marker, which hold chunks themselves
  rw [place.pages_replaced, surplus, hcut.spill_eq, hcut.refill_eq, hcut.newPages_eq, hflow]
  rw [newPages, hall, hcut.chunks_eq, chunks_eq hroom hne, hwithin, hbeyond, freshPages_append,
    freshPages_cons, ← hcut.before_eq]

/-- Lines in the place of the first marker give the report to which these lines were appended. -/
theorem replaced_paged (place : FirstMarker (base.paged items) marker)
    (hroom : (base.nextPage false).capacity ≠ some 0) {lines : List Line} (hlines : lines ≠ []) :
    place.replaced lines = base.paged (place.ahead ++ (lines ++ place.behind)) := by
  have hpages := pages_replaced_paged place hroom hlines
  have hcount := congrArg List.length hpages
  have hold : (base.newPages items).length = place.before.length + (place.later.length + 1) := by
    rw [← pages_paged, place.pages_eq, List.length_append, List.length_cons]
  let fresh := (place.without.newPages
    (surplus place.rest place.later (place.refilled lines))).length
  have hgrown : place.before.length + (place.later.length + 1) + fresh =
      (base.newPages (place.ahead ++ (lines ++ place.behind))).length := by
    simp only [place.pages_replaced, List.length_append, List.length_cons, length_reflow] at hcount
    rw [← hcount]
    show _ = place.before.length + (place.later.length + fresh + 1)
    omega
  apply Report.ext
  · rfl
  · rfl
  · rfl
  · exact hpages
  · show base.lastPageNumber + (base.newPages items).length + fresh =
      base.lastPageNumber + (base.newPages (place.ahead ++ (lines ++ place.behind))).length
    rw [← hgrown, hold, Nat.add_assoc]
  · show (if fresh = 0 then
        if (base.newPages items).length = 0 then base.current
        else some (0 + 0 + (base.newPages items).length - 1)
      else some ((place.before ++ [_]).length + place.later.length + fresh - 1)) =
      if (base.newPages (place.ahead ++ (lines ++ place.behind))).length = 0 then base.current
      else some (0 + 0 + (base.newPages (place.ahead ++ (lines ++ place.behind))).length - 1)
    rw [← hgrown, hold, List.length_append, List.length_singleton]
    by_cases hnone : fresh = 0
    · rw [if_pos hnone, if_neg (by omega), if_neg (by omega)]
      exact congrArg some (by omega)
    · rw [if_neg hnone, if_neg (by omega)]
      exact congrArg some (by omega)
  · rfl

/-- The first marker of such a report, if it is one without a frame, is replaced by its rows. -/
theorem run_sectionLines_paged (place : FirstMarker (base.paged items) marker)
    (hroom : (base.nextPage false).capacity ≠ some 0) {r : Resolver} {sources : List Source}
    (hmarker : marker.Expandable r sources) {memory : Memory} (hsound : memory.Sound) :
    ∃ after : Memory, after.Sound ∧ marker.shown r sources ≠ [] ∧
      (marker.sectionLines r sources place.slot).run.run memory =
        (.ok (marker.shown r sources), after) := by
  rcases hmarker.values with ⟨row, rows, hvalues⟩
  rcases hmarker.texts with ⟨texts, htexts⟩
  rcases hmarker.bare.frame_eq with ⟨htop, hbottom⟩
  rcases (marker.transparent_rowTexts r sources).run_eq htexts hsound with ⟨after, hrun, hafter⟩
  have hne : texts ≠ [] := Line.rowTexts_ne_nil place.isMarker hvalues hrun
  have hshown : marker.shown r sources = texts.map Line.ofText := by
    simp only [Line.shown, if_pos place.isMarker, htexts]
  have hshort : Section.shortage? [] [] place.slot = none := by
    rw [Section.shortage?_eq_none_iff]
    intro budget hbudget
    have hfits : place.page.Fits :=
      @fits_paged base items hroom place.page (by simp [place.pages_eq])
    have hle := hfits budget hbudget
    simp only [place.content_eq, List.length_append, List.length_cons] at hle
    simp only [FirstMarker.slot, List.length_nil]
    omega
  refine ⟨after, hafter, ?_, ?_⟩
  · simpa [hshown] using hne
  · have hspace : Section.shortage? marker.frameTop marker.frameBottom place.slot = none := by
      rwa [htop, hbottom]
    rw [Line.run_sectionLines place.isMarker hrun hspace, htop, hbottom,
      Section.flatten_blocks hshort, hshown]

/-- A step of an expansion puts the rows of the first marker in its place among the lines that were
appended. -/
theorem expandFirst_succ_paged (hroom : (base.nextPage false).capacity ≠ some 0) {r : Resolver}
    {sources : List Source}
    (hitems : ∀ item ∈ items, item.isMarker = true → item.Expandable r sources) {index : Nat}
    {slot : Slot} {rest : Report}
    (htake : (base.paged items).takeMarker? = some (index, slot, marker, rest)) {memory : Memory}
    (hsound : memory.Sound) :
    ∃ (ahead behind : List Line) (after : Memory),
      items = ahead ++ marker :: behind ∧ marker.isMarker = true ∧
      Static (marker.shown r sources) ∧ after.Sound ∧
      ∀ count, (base.paged items).expandFirst r sources (count + 1) memory =
        (base.paged (ahead ++ (marker.shown r sources ++ behind))).expandFirst r sources count
          after := by
  rcases takeMarker?_eq_some htake with ⟨place, rfl, rfl, rfl⟩
  have hsplit : items = place.ahead ++ marker :: place.behind := by
    rw [← place.contents_eq, contents_paged hroom]
  have hmarker : marker.Expandable r sources := hitems marker (by simp [hsplit]) place.isMarker
  rcases run_sectionLines_paged place hroom hmarker hsound with ⟨after, hafter, hne, hlines⟩
  have hsplice : ((base.paged items).setPage place.before.length place.rest).splice
      place.before.length place.slot.offset (marker.shown r sources) =
      (.ok (), base.paged (place.ahead ++ (marker.shown r sources ++ place.behind))) := by
    rw [← replaced_paged place hroom hne]
    exact place.splice_eq (fits_paged hroom) (.inr hroom)
  refine ⟨place.ahead, place.behind, after, hsplit, place.isMarker,
    Line.static_of_sectionLines place.isMarker hlines, hafter, ?_⟩
  intro count
  simp only [expandFirst, htake, hlines, hsplice]

/-- Expanding the markers gives the report to which their rows were appended. -/
theorem expandFirst_paged (hroom : (base.nextPage false).capacity ≠ some 0) {r : Resolver}
    {sources : List Source}
    (hitems : ∀ item ∈ items, item.isMarker = true → item.Expandable r sources) {count : Nat}
    (hcount : items.countP Line.isMarker ≤ count) {memory : Memory} (hsound : memory.Sound) :
    ((base.paged items).expandFirst r sources count memory).outcome = .ok () ∧
      ((base.paged items).expandFirst r sources count memory).report =
        base.paged (items.flatMap fun item => item.shown r sources) := by
  induction count generalizing items memory with
  | zero =>
      have hstatic : Static items := static_iff_countP_eq_zero.mpr (Nat.le_zero.mp hcount)
      rw [Line.shown_of_static hstatic]
      exact ⟨rfl, rfl⟩
  | succ count ih =>
      cases htake : (base.paged items).takeMarker? with
      | none =>
          have hstatic := takeMarker?_eq_none_iff.mp htake
          rw [contents_paged hroom] at hstatic
          simp only [expandFirst, htake]
          rw [Line.shown_of_static hstatic]
          exact ⟨trivial, rfl⟩
      | some taken =>
          rcases taken with ⟨index, slot, marker, rest⟩
          rcases expandFirst_succ_paged hroom hitems htake hsound with
            ⟨ahead, behind, after, rfl, hmarker, hstatic, hafter, hstep⟩
          have hitems' : ∀ item ∈ ahead ++ (marker.shown r sources ++ behind),
              item.isMarker = true → item.Expandable r sources := by
            intro item hitem hisMarker
            rcases List.mem_append.mp hitem with hahead | hlater
            · exact hitems item (by simp [hahead]) hisMarker
            · rcases List.mem_append.mp hlater with hrow | hbehind
              · have hnot := hstatic item hrow
                rw [hisMarker] at hnot
                contradiction
              · exact hitems item (by simp [hbehind]) hisMarker
          have hcount' : (ahead ++ (marker.shown r sources ++ behind)).countP Line.isMarker ≤
              count := by
            simp only [List.countP_append, List.countP_cons, hmarker, if_true] at hcount
            rw [List.countP_append, List.countP_append, static_iff_countP_eq_zero.mp hstatic]
            omega
          have hshown : (ahead ++ (marker.shown r sources ++ behind)).flatMap
              (fun item => item.shown r sources) =
              (ahead ++ marker :: behind).flatMap (fun item => item.shown r sources) := by
            simp only [List.flatMap_append, List.flatMap_cons, Line.shown_of_static hstatic]
          rcases ih hitems' hcount' hafter with ⟨houtcome, hreport⟩
          rw [hstep]
          exact ⟨houtcome, hreport.trans (congrArg base.paged hshown)⟩

end

/-- Expanding a report gives the report to which the rows were appended in the places of their
markers, field by field.  The memory may hold what earlier expansions have read. -/
theorem expand_eq_append {base : Report} (hpages : base.pages = [])
    (hbreak : base.breakRequested = false)
    (hroom : ∀ length, base.format.pageLength = some length →
      base.header.length + base.footer.length < length)
    {r : Resolver} {sources : List Source} {items : List Line}
    (hitems : ∀ item ∈ items, item.isMarker = true → item.Expandable r sources)
    {memory : Memory} (hsound : memory.Sound) :
    ∃ appended expected : Report,
      base.appendAll items = (.ok (), appended) ∧
      base.appendAll (items.flatMap fun item => item.shown r sources) = (.ok (), expected) ∧
      (appended.expand r sources memory).outcome = .ok () ∧
      (appended.expand r sources memory).report = expected := by
  have hcapacity := capacity_nextPage_ne_zero hroom false
  have hcount : items.countP Line.isMarker ≤ (base.paged items).markerCount :=
    Nat.le_of_eq (markerCount_paged hcapacity items).symm
  rcases expandFirst_paged hcapacity hitems hcount hsound with ⟨houtcome, hreport⟩
  exact ⟨_, _, appendAll_of_pages_nil hpages hbreak hcapacity items,
    appendAll_of_pages_nil hpages hbreak hcapacity _, houtcome, hreport⟩

/-- The same list appended as a marker and as its rows. -/
theorem expand_list_eq_append :
    let base : Report := { format := { pageLength := some 3 }, header := ["H"] }
    let listing := Line.ofListing { source := "items", template := "x" }
    ∃ appended expected : Report,
      base.appendAll [Line.ofText "a", listing, Line.ofText "b"] = (.ok (), appended) ∧
      base.appendAll (["a", "x", "x", "x", "b"].map Line.ofText) = (.ok (), expected) ∧
      (appended.expand .scriptless threeItems []).outcome = .ok () ∧
      (appended.expand .scriptless threeItems []).report = expected := by
  intro base listing
  have hitems : ∀ item ∈ [Line.ofText "a", listing, Line.ofText "b"], item.isMarker = true →
      item.Expandable .scriptless threeItems := by
    intro item hitem hmarker
    simp only [List.mem_cons, List.not_mem_nil, or_false] at hitem
    rcases hitem with rfl | rfl | rfl
    · contradiction
    · exact ⟨⟨rfl, rfl⟩, ⟨.int 1, [.int 2, .int 3], rfl⟩, ⟨["x", "x", "x"], rfl⟩⟩
    · contradiction
  have hroom : ∀ length, base.format.pageLength = some length →
      base.header.length + base.footer.length < length := by
    rintro length ⟨⟩
    decide
  exact expand_eq_append rfl rfl hroom hitems Memory.sound_nil

end Report

end Platen
