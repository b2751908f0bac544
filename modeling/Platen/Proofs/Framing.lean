import Platen.Proofs.ExpansionRun
import Platen.Proofs.Kept

/-!
# Sections keep their frames

A section that does not fit on the page of its marker goes on at the top of the next pages.  If the
pages from the marker on have one capacity, every chunk of its rows stands on a page of its own,
between the header and the footer of the section, and it stays there when later markers are
expanded.

Main results:

- Theorem `Report.content_carried`: the content of each page over which lines are carried, if all
  these pages have one capacity.
- Theorem `Report.Leads.expandFirst`: what pages begin with stays there while later markers are
  expanded.
- Theorem `Report.section_framed`: the chunks of a section stand framed on consecutive pages, and
  the lines after its marker follow the last chunk.
-/

namespace Platen

namespace Report

/-! ## Pages of one capacity -/

/-- The content of each page over which lines are carried, as long as carried lines reach it, if all
pages have one capacity. -/
theorem content_carried {report : Report} {limit : Nat} (hlimit : 0 < limit) {later : List Page}
    (hlater : ∀ page ∈ later, page.capacity = some limit) (carry : List Line) (number : Nat)
    {i : Nat} (hi : i * limit < carry.length) :
    ∃ page, (reflow carry later ++
        report.freshPages number (chunks (some limit) (overflow carry later)))[i]? = some page ∧
      page.content =
        ((carry ++ (later.take (i + 1)).flatMap Page.content).drop (i * limit)).take limit := by
  induction later generalizing carry i with
  | nil =>
      have hchunk := getElem?_chunks hlimit hi
      refine ⟨report.seeded (number + i) ((carry.drop (i * limit)).take limit), ?_, ?_⟩
      · rw [reflow, overflow, List.nil_append, getElem?_freshPages, hchunk, Option.map_some]
      · rw [List.take_nil, List.flatMap_nil, List.append_nil]
        rfl
  | cons page rest ih =>
      rcases List.forall_mem_cons.mp hlater with ⟨hpage, hrest⟩
      cases i with
      | zero =>
          refine ⟨page.refill (carry ++ page.content), rfl, ?_⟩
          simp [hpage, within]
      | succ i =>
          rw [Nat.succ_mul] at hi
          -- the carried lines fill this page, so the next one starts at a multiple of the limit
          have hspill : page.spill (carry ++ page.content) =
              (carry ++ page.content).drop limit := by
            rw [Page.spill, hpage, beyond]
          have hlong : limit ≤ (carry ++ page.content).length := by
            rw [List.length_append]
            omega
          have hcarry : i * limit < (page.spill (carry ++ page.content)).length := by
            rw [hspill, List.length_drop, List.length_append]
            omega
          rcases ih hrest _ hcarry with ⟨found, hfound, hcontent⟩
          refine ⟨found, hfound, ?_⟩
          rw [hcontent, hspill, ← List.drop_append_of_le_length hlong, List.drop_drop,
            List.append_assoc, Nat.succ_mul, Nat.add_comm limit]
          rfl

namespace FirstMarker

variable {report : Report} {marker : Line}

/-- The content of the pages from the marker on after lines took its place, as long as lines of the
marker's page reach them, if all these pages have one capacity. -/
theorem content_replaced (place : FirstMarker report marker) {limit : Nat} (hlimit : 0 < limit)
    (hpage : place.page.capacity = some limit)
    (hlater : ∀ page ∈ place.later, page.capacity = some limit)
    (hnew : (report.nextPage false).capacity = some limit) {lines : List Line} {i : Nat}
    (hi : i = 0 ∨ i * limit < (place.refilled lines).length) :
    ∃ page, (place.replaced lines).pages[place.before.length + i]? = some page ∧
      page.content =
        ((place.refilled lines ++ (place.later.take i).flatMap Page.content).drop
          (i * limit)).take limit := by
  have hrest : place.rest.capacity = some limit := hpage
  have hcapacity : (place.without.nextPage false).capacity = some limit := hnew
  have hspill : place.rest.spill (place.refilled lines) =
      (place.refilled lines).drop limit := by
    rw [Page.spill, hrest, beyond]
  rw [place.pages_replaced, surplus, newPages, hcapacity, hspill,
    List.getElem?_append_right (Nat.le_add_right _ i), Nat.add_sub_cancel_left]
  cases i with
  | zero =>
      refine ⟨place.rest.refill (place.refilled lines), rfl, ?_⟩
      simp [hrest, within]
  | succ i =>
      have hlong : (i + 1) * limit < (place.refilled lines).length := by
        rcases hi with hzero | hlong
        · omega
        · exact hlong
      rw [Nat.succ_mul] at hlong
      have hcarry : i * limit < ((place.refilled lines).drop limit).length := by
        rw [List.length_drop]
        omega
      rcases @content_carried place.without limit hlimit place.later hlater
        ((place.refilled lines).drop limit) (place.without.lastPageNumber + 1) i hcarry with
          ⟨page, hget, hcontent⟩
      refine ⟨page, by rw [List.getElem?_cons_succ, hget], ?_⟩
      rw [hcontent, ← List.drop_append_of_le_length (by omega), List.drop_drop, Nat.succ_mul,
        Nat.add_comm limit]

end FirstMarker

/-! ## What pages begin with -/

/-- Whether consecutive pages from an index on begin with given lines, and hold nothing else except
for the last of them. -/
def Leads (report : Report) (index : Nat) (leads : List (List Line)) : Prop :=
  ∀ i lead, leads[i]? = some lead → ∃ page, report.pages[index + i]? = some page ∧
    lead <+: page.content ∧ (i + 1 < leads.length → page.content = lead)

/-- What pages begin with stays there if everything is kept up to the end of the last of these
lines. -/
theorem Leads.of_keeps {report result : Report} {index k : Nat} {leads : List (List Line)}
    {lead : List Line} (hleads : report.Leads index leads) (hlength : leads.length = k + 1)
    (hlead : leads[k]? = some lead) (hkeeps : Keeps (index + k) lead.length report result) :
    result.Leads index leads := by
  intro i found hfound
  rcases hleads i found hfound with ⟨page, hpage, hprefix, halone⟩
  have hi : i < leads.length := (List.getElem?_eq_some_iff.mp hfound).1
  by_cases hlt : i < k
  · have hsame : result.pages[index + i]? = report.pages[index + i]? := by
      have hget := congrArg (fun pages => pages[index + i]?) hkeeps.pages_eq
      simpa only [List.getElem?_take_of_lt (Nat.add_lt_add_left hlt index)] using hget
    exact ⟨page, hsame.trans hpage, hprefix, halone⟩
  · obtain rfl : i = k := by
      omega
    rw [hlead, Option.some.injEq] at hfound
    subst hfound
    rcases hkeeps.content_eq page hpage with ⟨page', hpage', hcontent⟩
    refine ⟨page', hpage', ?_, by omega⟩
    rw [List.prefix_iff_eq_take, hcontent]
    exact List.prefix_iff_eq_take.mp hprefix

/-- There is no marker before the end of static lines that pages begin with, if there is none on
earlier pages. -/
theorem Leads.staticBefore {report : Report} {index k : Nat} {leads : List (List Line)}
    {lead : List Line} (hleads : report.Leads index leads) (hlength : leads.length = k + 1)
    (hlead : leads[k]? = some lead)
    (hbefore : Static ((report.pages.take index).flatMap Page.content))
    (hstatic : ∀ lead ∈ leads, Static lead) : report.StaticBefore (index + k) lead.length := by
  constructor
  · intro line hline
    rcases List.mem_flatMap.mp hline with ⟨page, hpage, hmem⟩
    rcases List.mem_iff_getElem?.mp hpage with ⟨j, hj⟩
    have hlt : j < index + k := by
      have hbound := (List.getElem?_eq_some_iff.mp hj).1
      rw [List.length_take] at hbound
      omega
    rw [List.getElem?_take_of_lt hlt] at hj
    by_cases hfront : j < index
    · refine hbefore line (List.mem_flatMap.mpr ⟨page, ?_, hmem⟩)
      exact List.mem_iff_getElem?.mpr ⟨j, by rw [List.getElem?_take_of_lt hfront, hj]⟩
    · rcases Nat.exists_eq_add_of_le (Nat.le_of_not_lt hfront) with ⟨i, rfl⟩
      have hi : i + 1 < leads.length := by
        omega
      have hget : leads[i]? = some leads[i] := List.getElem?_eq_getElem (by omega)
      rcases hleads i leads[i] hget with ⟨page', hpage', -, halone⟩
      obtain rfl : page = page' := by
        rw [hj] at hpage'
        exact Option.some.inj hpage'
      rw [halone hi] at hmem
      exact hstatic _ (List.mem_of_getElem? hget) line hmem
  · intro page hpage
    rcases hleads k lead hlead with ⟨page', hpage', hprefix, -⟩
    obtain rfl : page = page' := by
      rw [hpage] at hpage'
      exact Option.some.inj hpage'
    rw [← List.prefix_iff_eq_take.mp hprefix]
    exact hstatic lead (List.mem_of_getElem? hlead)

/-- Static lines that pages begin with stay there while later markers are expanded, wherever the
expansion ends. -/
theorem Leads.expandFirst {report : Report} {index : Nat} {leads : List (List Line)}
    (hleads : report.Leads index leads)
    (hbefore : Static ((report.pages.take index).flatMap Page.content))
    (hstatic : ∀ lead ∈ leads, Static lead) (r : Resolver) (sources : List Source) (count : Nat)
    (memory : Memory) : (report.expandFirst r sources count memory).report.Leads index leads := by
  cases hlast : leads.length with
  | zero =>
      intro i lead hlead
      rw [List.length_eq_zero_iff.mp hlast] at hlead
      simp at hlead
  | succ k =>
      have hget : leads[k]? = some leads[k] := List.getElem?_eq_getElem (by omega)
      rcases hleads k leads[k] hget with ⟨page, hpage, -⟩
      have hindex : index + k < report.pages.length := (List.getElem?_eq_some_iff.mp hpage).1
      exact hleads.of_keeps hlast hget (keeps_expandFirst hindex
        (hleads.staticBefore hlast hget hbefore hstatic) r sources count memory)

end Report

/-! ## The chunks of a section -/

namespace Section

/-- What the pages of a section begin with: the first one with the lines above the section and its
first rows, every further one with a chunk of rows, each between the header and the footer of the
section. -/
def leads (above : List Line) (header footer first : List String) (further : List (List String)) :
    List (List Line) :=
  (above ++ framed header footer first) :: further.map (framed header footer)

/-- How rows fall into chunks on pages of a given capacity: as many as fit below the lines above the
section, and then as many as fit between a header and a footer. -/
structure Chunked (limit offset : Nat) (header footer rows first : List String)
    (further : List (List String)) : Prop where
  first_eq : first = rows.take (limit - (header.length + footer.length) - offset)
  flatten_eq : first ++ further.flatten = rows
  bounds : ∀ chunk ∈ further,
    chunk ≠ [] ∧ chunk.length ≤ limit - (header.length + footer.length)
  full : ∀ chunk ∈ further.dropLast,
    chunk.length = limit - (header.length + footer.length)

theorem length_framed (header footer rows : List String) :
    (framed header footer rows).length = header.length + rows.length + footer.length := by
  simp [framed, Nat.add_assoc]

theorem static_leads {above : List Line} (hstatic : Static above)
    (header footer first : List String) (further : List (List String)) :
    ∀ lead ∈ leads above header footer first further, Static lead := by
  intro lead hlead
  rcases List.mem_cons.mp hlead with rfl | hblock
  · exact static_append.mpr ⟨hstatic, static_map_ofText _⟩
  · rcases List.mem_map.mp hblock with ⟨chunk, -, rfl⟩
    exact static_map_ofText _

section

variable {limit offset : Nat} {header footer : List String}

/-- The rows of a section fall into chunks, and its lines are these chunks in their frames. -/
theorem exists_chunked {slot : Slot} (hbudget : slot.budget = some limit)
    (hroom : header.length + slot.offset + footer.length < limit) (rows : List String) :
    ∃ (first : List String) (further : List (List String)),
      Chunked limit slot.offset header footer rows first further ∧
      ∀ above : List Line, above ++ (blocks header footer rows slot).flatten =
        (leads above header footer first further).flatten := by
  have hlimit : some (limit - (header.length + footer.length)) ≠ some 0 := by
    rw [ne_eq, Option.some.injEq]
    omega
  have hrow : rowLimit header footer slot = some (limit - (header.length + footer.length)) := by
    simp [rowLimit, hbudget]
  have hfirst : firstLimit header footer slot =
      some (limit - (header.length + footer.length) - slot.offset) := by
    simp [firstLimit, hrow]
  refine ⟨within (firstLimit header footer slot) rows,
    chunks (rowLimit header footer slot) (beyond (firstLimit header footer slot) rows), ?_, ?_⟩
  · rw [hrow]
    constructor
    · rw [hfirst]
      rfl
    · rw [flatten_chunks hlimit, within_append_beyond]
    · intro chunk hchunk
      rcases chunk_bounds hlimit _ chunk hchunk with ⟨hne, hadmits⟩
      exact ⟨hne, hadmits _ rfl⟩
    · exact length_of_mem_dropLast_chunks (by omega) _
  · intro above
    rw [blocks, rowChunks, List.map_cons, List.flatten_cons, leads, List.flatten_cons,
      List.append_assoc]

variable {rows first : List String} {further : List (List String)} {above : List Line}

/-- If there are further chunks, there are as many rows in the first one as fit. -/
theorem Chunked.length_first (hchunked : Chunked limit offset header footer rows first further)
    (hne : further ≠ []) :
    first.length = limit - (header.length + footer.length) - offset := by
  rcases List.exists_mem_of_ne_nil further hne with ⟨chunk, hchunk⟩
  have hpos : 0 < chunk.length := List.length_pos_iff.mpr (hchunked.bounds chunk hchunk).1
  have hle : chunk.length ≤ further.flatten.length := by
    exact (List.sublist_flatten_of_mem hchunk).length_le
  have hrows := congrArg List.length hchunked.flatten_eq
  have hfirst := congrArg List.length hchunked.first_eq
  rw [List.length_append] at hrows
  rw [List.length_take] at hfirst
  omega

/-- Every page of a section but the last is filled by what it begins with. -/
theorem Chunked.length_leads (hchunked : Chunked limit offset header footer rows first further)
    (hroom : header.length + offset + footer.length < limit) (habove : above.length = offset) :
    ∀ lead ∈ (leads above header footer first further).dropLast, lead.length = limit := by
  by_cases hne : further = []
  · simp [leads, hne]
  · intro lead hlead
    have hmap : further.map (framed header footer) ≠ [] := by
      simpa using hne
    rw [leads, List.dropLast_cons_of_ne_nil hmap, List.mem_cons, ← List.map_dropLast] at hlead
    rcases hlead with rfl | hblock
    · rw [List.length_append, length_framed, hchunked.length_first hne, habove]
      omega
    · rcases List.mem_map.mp hblock with ⟨chunk, hchunk, rfl⟩
      rw [length_framed, hchunked.full chunk hchunk]
      omega

/-- What a page of a section begins with fits on it. -/
theorem Chunked.length_le (hchunked : Chunked limit offset header footer rows first further)
    (hroom : header.length + offset + footer.length < limit) (habove : above.length = offset) :
    ∀ lead ∈ leads above header footer first further, lead.length ≤ limit := by
  intro lead hlead
  rcases List.mem_cons.mp hlead with rfl | hblock
  · have hfirst := congrArg List.length hchunked.first_eq
    rw [List.length_take] at hfirst
    rw [List.length_append, length_framed, habove]
    omega
  · rcases List.mem_map.mp hblock with ⟨chunk, hchunk, rfl⟩
    have hle := (hchunked.bounds chunk hchunk).2
    rw [length_framed]
    omega

/-- Further pages begin with something. -/
theorem Chunked.ne_nil (hchunked : Chunked limit offset header footer rows first further)
    {i : Nat} {lead : List Line}
    (hlead : (leads above header footer first further)[i + 1]? = some lead) : lead ≠ [] := by
  rw [leads, List.getElem?_cons_succ] at hlead
  rcases List.mem_map.mp (List.mem_of_getElem? hlead) with ⟨chunk, hchunk, rfl⟩
  have hpos := List.length_pos_iff.mpr (hchunked.bounds chunk hchunk).1
  apply List.ne_nil_of_length_pos
  rw [length_framed]
  omega

end

end Section

namespace Report

/-! ## Sections in a report -/

/-- A section that took the place of a marker, with the lines that followed the marker. -/
structure Framed (report : Report) (index limit : Nat) (leads : List (List Line))
    (below : List Line) (result : Report) : Prop where
  /-- Earlier pages stay. -/
  before : result.pages.take index = report.pages.take index
  /-- The pages of the section begin with its chunks and hold nothing else, except for the last. -/
  begins : result.Leads index leads
  /-- The lines that followed the marker go on after the last chunk, as many as fit. -/
  follows : ∀ k lead, leads.length = k + 1 → leads[k]? = some lead →
    ∃ page, result.pages[index + k]? = some page ∧
      page.content = (lead ++ (below ++
        ((report.pages.drop (index + 1)).take k).flatMap Page.content)).take limit
  /-- No line is lost, and the lines stay in their order. -/
  flow : (result.pages.drop index).flatMap Page.content =
    leads.flatten ++ (below ++ (report.pages.drop (index + 1)).flatMap Page.content)

namespace FirstMarker

variable {report : Report} {marker : Line}

section

variable {limit : Nat} {lines : List Line} {leads : List (List Line)}

/-- Chunks of lines that fill pages of one capacity begin the pages from the marker's page on, one
chunk a page, and the lines after them follow as far as they fit. -/
theorem content_leads (place : FirstMarker report marker) (hlimit : 0 < limit)
    (hpage : place.page.capacity = some limit)
    (hlater : ∀ page ∈ place.later, page.capacity = some limit)
    (hnew : (report.nextPage false).capacity = some limit)
    (hlines : place.above ++ lines = leads.flatten)
    (hlength : ∀ lead ∈ leads.dropLast, lead.length = limit)
    (hne : ∀ i lead, leads[i + 1]? = some lead → lead ≠ []) {i : Nat} {lead : List Line}
    (hlead : leads[i]? = some lead) :
    ∃ page, (place.replaced lines).pages[place.before.length + i]? = some page ∧
      page.content = (lead ++ ((leads.drop (i + 1)).flatten ++ (place.below ++
        (place.later.take i).flatMap Page.content))).take limit := by
  have hall : place.refilled lines = leads.flatten ++ place.below := by
    rw [refilled, ← List.append_assoc, hlines]
  rcases List.getElem?_eq_some_iff.mp hlead with ⟨hi, hat⟩
  have hstep : leads.flatten.drop (i * limit) = lead ++ (leads.drop (i + 1)).flatten := by
    rw [drop_flatten_of_length hlength hi, List.drop_eq_getElem_cons hi, hat, List.flatten_cons]
  -- a chunk that is not empty reaches its page, and so do the lines before it
  have hreach : i = 0 ∨ i * limit < leads.flatten.length := by
    cases i with
    | zero => exact .inl rfl
    | succ i =>
        have hpos := List.length_pos_iff.mpr (hne i lead hlead)
        have hleft := congrArg List.length hstep
        rw [List.length_drop, List.length_append] at hleft
        exact .inr (by omega)
  have hlong : i * limit ≤ leads.flatten.length := by
    rcases hreach with rfl | hlt
    · omega
    · exact Nat.le_of_lt hlt
  have hinside : i = 0 ∨ i * limit < (place.refilled lines).length := by
    rw [hall, List.length_append]
    omega
  rcases place.content_replaced hlimit hpage hlater hnew hinside with ⟨page, hget, hcontent⟩
  refine ⟨page, hget, ?_⟩
  rw [hcontent, hall, List.append_assoc, List.drop_append_of_le_length hlong, hstep,
    List.append_assoc]

/-- No line is lost where lines take the place of the first marker, and the lines from its page on
stay in their order. -/
theorem flow_replaced (place : FirstMarker report marker) (hroom : place.HasRoom lines) :
    ((place.replaced lines).pages.drop place.before.length).flatMap Page.content =
      place.above ++ (lines ++ place.behind) := by
  have hcontents := place.contents_replaced hroom
  rw [contents, place.pages_replaced, List.flatMap_append, ahead, List.append_assoc,
    List.append_cancel_left_eq] at hcontents
  rw [place.pages_replaced, List.drop_left, hcontents]

/-- Chunks of lines that fill pages of one capacity stand on consecutive pages when they take the
place of the first marker. -/
theorem framed_replaced (place : FirstMarker report marker) (hlimit : 0 < limit)
    (hpage : place.page.capacity = some limit)
    (hlater : ∀ page ∈ place.later, page.capacity = some limit)
    (hnew : (report.nextPage false).capacity = some limit)
    (hlines : place.above ++ lines = leads.flatten)
    (hlength : ∀ lead ∈ leads.dropLast, lead.length = limit)
    (hle : ∀ lead ∈ leads, lead.length ≤ limit)
    (hne : ∀ i lead, leads[i + 1]? = some lead → lead ≠ []) :
    Framed report place.before.length limit leads place.below (place.replaced lines) := by
  have hdrop : report.pages.drop (place.before.length + 1) = place.later := by
    rw [place.pages_eq, List.drop_length_add_append]
    rfl
  constructor
  · rw [place.pages_replaced, List.take_left, place.pages_eq, List.take_left]
  · intro i lead hlead
    rcases place.content_leads hlimit hpage hlater hnew hlines hlength hne hlead with
      ⟨page, hget, hcontent⟩
    refine ⟨page, hget, ?_, ?_⟩
    · have hfits := hle lead (List.mem_of_getElem? hlead)
      rw [hcontent, List.take_append, List.take_of_length_le hfits]
      exact List.prefix_append _ _
    · intro hnext
      have hfull : lead.length = limit := by
        refine hlength lead (List.mem_of_getElem? (?_ : leads.dropLast[i]? = some lead))
        rw [List.dropLast_eq_take, List.getElem?_take_of_lt (by omega), hlead]
      rw [hcontent, ← hfull, List.take_left]
  · intro k lead hk hlead
    rcases place.content_leads hlimit hpage hlater hnew hlines hlength hne hlead with
      ⟨page, hget, hcontent⟩
    refine ⟨page, hget, ?_⟩
    rw [hcontent, List.drop_eq_nil_of_le (Nat.le_of_eq hk), List.flatten_nil, List.nil_append,
      hdrop]
  · have hroom : place.HasRoom lines := by
      right
      rw [hnew, ne_eq, Option.some.injEq]
      omega
    rw [place.flow_replaced hroom, ← List.append_assoc, hlines, behind, hdrop]

end

end FirstMarker

/-- A section whose marker stands on pages of one capacity: its chunks stand between copies of its
header and footer, the first one below the lines above the marker and every further one at the top
of a page of its own, and the lines that followed the marker go on after the last chunk.  They stay
where they are when later markers are expanded. -/
theorem section_framed {report rest : Report} (hreachable : report.Reachable) {index : Nat}
    {slot : Slot} {marker : Line} (htake : report.takeMarker? = some (index, slot, marker, rest))
    {limit : Nat} (hcapacity : ∀ page ∈ report.pages.drop index, page.capacity = some limit)
    (hnew : (report.nextPage false).capacity = some limit) {r : Resolver} {sources : List Source}
    {memory after : Memory} {rows : List String}
    (hrows : (marker.rowTexts r sources).run.run memory = (.ok rows, after))
    (hroom : marker.frameTop.length + slot.offset + marker.frameBottom.length < limit) :
    ∃ (page : Page) (first : List String) (further : List (List String)) (result : Report),
      report.pages[index]? = some page ∧ page.content[slot.offset]? = some marker ∧
      Section.Chunked limit slot.offset marker.frameTop marker.frameBottom rows first further ∧
      (∀ count, report.expandFirst r sources (count + 1) memory =
        result.expandFirst r sources count after) ∧
      Framed report index limit (Section.leads (page.content.take slot.offset) marker.frameTop
        marker.frameBottom first further) (page.content.drop (slot.offset + 1)) result ∧
      ∀ (r' : Resolver) (sources' : List Source) (count : Nat) (memory' : Memory),
        (result.expandFirst r' sources' count memory').report.Leads index
          (Section.leads (page.content.take slot.offset) marker.frameTop marker.frameBottom first
            further) := by
  rcases takeMarker?_eq_some htake with ⟨place, rfl, rfl, rfl⟩
  have hdrop : report.pages.drop place.before.length = place.page :: place.later := by
    rw [place.pages_eq, List.drop_left]
  rw [hdrop] at hcapacity
  rcases List.forall_mem_cons.mp hcapacity with ⟨hpage, hlater⟩
  have hlimit : 0 < limit := by
    omega
  have hbudget : place.slot.budget = some limit := hpage
  have hshort : Section.shortage? marker.frameTop marker.frameBottom place.slot = none := by
    rw [Section.shortage?_eq_none_iff]
    intro budget heq
    rw [hbudget, Option.some.injEq] at heq
    omega
  have hlines := Line.run_sectionLines place.isMarker hrows hshort
  rcases Section.exists_chunked hbudget hroom rows with ⟨first, further, hchunked, hleads⟩
  have hspace : place.HasRoom
      (Section.blocks marker.frameTop marker.frameBottom rows place.slot).flatten := by
    right
    rw [hnew, ne_eq, Option.some.injEq]
    omega
  have hsplice : (report.setPage place.before.length place.rest).splice place.before.length
      place.slot.offset
        (Section.blocks marker.frameTop marker.frameBottom rows place.slot).flatten =
      (.ok (), place.replaced _) :=
    place.splice_eq hreachable.fits hspace
  have hframed := place.framed_replaced hlimit hpage hlater hnew (hleads place.above)
    (hchunked.length_leads hroom rfl) (hchunked.length_le hroom rfl) (fun _ _ => hchunked.ne_nil)
  have htake' : place.page.content.take place.slot.offset = place.above := by
    rw [place.content_eq]
    exact List.take_left
  have hbelow : place.page.content.drop (place.slot.offset + 1) = place.below := by
    show place.page.content.drop (place.above.length + 1) = place.below
    rw [place.content_eq, List.drop_length_add_append]
    rfl
  refine ⟨place.page, first, further, place.replaced
    (Section.blocks marker.frameTop marker.frameBottom rows place.slot).flatten, ?_, ?_, hchunked,
    ?_, ?_, ?_⟩
  · simp [place.pages_eq]
  · simp [place.content_eq, FirstMarker.slot]
  · intro count
    simp only [expandFirst, htake, hlines, hsplice]
  · rw [htake', hbelow]
    exact hframed
  · intro r' sources' count memory'
    rw [htake']
    refine hframed.begins.expandFirst ?_ (Section.static_leads place.static_above _ _ _ _) r'
      sources' count memory'
    rw [hframed.before, place.pages_eq, List.take_left]
    exact place.static_before

/-- A list with a header and a footer between two lines, on pages of five content lines. -/
def framedList : Report :=
  let base : Report := { format := { pageLength := some 6 }, header := ["H"] }
  let listing : Listing :=
    { source := "items", template := "x", header := ["top"], footer := ["end"] }
  let first := (base.append (Line.ofText "a") false).2
  let second := (first.append (Line.ofListing listing) false).2
  (second.append (Line.ofText "b") false).2

theorem framedList_section :
    ∃ (first : List String) (further : List (List String)) (result : Report),
      Section.Chunked 5 1 ["top"] ["end"] ["x", "x", "x"] first further ∧
      Framed framedList 0 5 (Section.leads [Line.ofText "a"] ["top"] ["end"] first further)
        [Line.ofText "b"] result ∧
      (result.expandFirst .scriptless threeItems 1 []).report.Leads 0
        (Section.leads [Line.ofText "a"] ["top"] ["end"] first further) := by
  have hreachable : framedList.Reachable :=
    .append _ _ (.append _ _ (.append _ _ (.withHeader ["H"] (.new { pageLength := some 6 }))))
  obtain ⟨place, htake⟩ : ∃ rest, framedList.takeMarker? =
      some (0, { page := 1, offset := 1, budget := some 5 }, _, rest) := ⟨_, rfl⟩
  have hcapacity : ∀ page ∈ framedList.pages.drop 0, page.capacity = some 5 := by decide
  rcases @section_framed framedList place hreachable 0 _ _ htake 5 hcapacity rfl .scriptless
      threeItems [] [] ["x", "x", "x"] rfl (by decide) with
      ⟨page, first, further, result, hpage, -, hchunked, -, hframed, hkept⟩
  cases hpage
  exact ⟨first, further, result, hchunked, hframed, hkept .scriptless threeItems 1 []⟩

end Report

end Platen
