import Mathlib
import Gatekeeper.Text.Classes

/-! Texts as lines with ends between them. Whatever the ends are, the lines come back from the text, up to empty
ones: where a carriage return, an empty line and a line feed follow each other, the two ends are read as one. -/

namespace Gatekeeper.Text

/-- What ends a line. -/
inductive LineEnd where
  | lineFeed
  | carriageReturn
  | pair

def LineEnd.chars : LineEnd → List Char
  | lineFeed => ['\n']
  | carriageReturn => ['\r']
  | pair => ['\r', '\n']

/-- A character of which no line end is made. -/
def IsInline (c : Char) : Prop :=
  c ≠ '\n' ∧ c ≠ '\r'

/-- A line without its end. -/
structure Line where
  chars : List Char
  isInline : ∀ c ∈ chars, IsInline c

def Line.empty : Line :=
  ⟨[], by simp⟩

/-- The line between more characters. -/
def Line.pad (line : Line) (front back : List Char) (hfront : ∀ c ∈ front, IsInline c)
    (hback : ∀ c ∈ back, IsInline c) : Line where
  chars := front ++ line.chars ++ back
  isInline c hc := by
    rcases List.mem_append.mp hc with hc | hc
    · exact (List.mem_append.mp hc).elim (hfront c) (line.isInline c)
    · exact hback c hc

/-- Lines that make up a text: some with their ends, and what follows the last end. -/
structure Layout where
  ended : List (Line × LineEnd)
  last : Line

namespace Layout

/-- The text that is laid out. -/
def text (layout : Layout) : List Char :=
  layout.ended.flatMap (fun (line, mark) => line.chars ++ mark.chars) ++ layout.last.chars

def lines (layout : Layout) : List Line :=
  layout.ended.map Prod.fst ++ [layout.last]

/-- One layout behind another one, whose last line is dropped. -/
def append (layout other : Layout) : Layout :=
  ⟨layout.ended ++ other.ended, other.last⟩

theorem text_append {layout : Layout} (hlast : layout.last.chars = []) (other : Layout) :
    (layout.append other).text = layout.text ++ other.text := by
  simp only [text, append, hlast, List.flatMap_append, List.append_nil, List.append_assoc]

end Layout

theorem lines_cons {c : Char} (hc : IsInline c) (rest : List Char) :
    lines (c :: rest) = extendFirst c (lines rest) := by
  rw [lines]
  · rw [if_neg (by simpa [IsInline] using hc)]
  · rintro _ rfl
    exact absurd rfl hc.2

/-- Characters that end no line go to the first line of what follows them. -/
theorem lines_append {cs rest first : List Char} {others : List (List Char)} (hcs : ∀ c ∈ cs, IsInline c)
    (hrest : lines rest = first :: others) : lines (cs ++ rest) = (cs ++ first) :: others := by
  induction cs with
  | nil => exact hrest
  | cons c cs ih =>
      rw [List.cons_append, lines_cons (hcs c (List.mem_cons_self ..)),
        ih fun d hd => hcs d (List.mem_cons_of_mem c hd)]
      rfl

/-- The lines that are not empty. -/
def written (lines : List (List Char)) : List (List Char) :=
  lines.filter fun line => !line.isEmpty

/-- Behind an end there are the lines of what follows it. Only when a line feed follows a carriage return
there is an empty line less. -/
theorem lines_append_of_end (mark : LineEnd) (rest : List Char) :
    ∃ others, lines (mark.chars ++ rest) = [] :: others ∧ written others = written (lines rest) := by
  cases mark with
  | lineFeed => exact ⟨lines rest, by simp [LineEnd.chars, lines], rfl⟩
  | pair => exact ⟨lines rest, by simp [LineEnd.chars, lines], rfl⟩
  | carriageReturn =>
      by_cases hfeed : ∃ later, rest = '\n' :: later
      · obtain ⟨later, rfl⟩ := hfeed
        exact ⟨lines later, by simp [LineEnd.chars, lines], by simp [lines, written]⟩
      · refine ⟨lines rest, ?_, rfl⟩
        rw [LineEnd.chars, List.singleton_append, lines]
        · simp
        · exact fun later _ hrest => hfeed ⟨later, hrest⟩

/-- The lines of a text that is laid out are those of the layout, up to empty ones. -/
theorem written_lines_text (layout : Layout) :
    written (lines layout.text) = written (layout.lines.map Line.chars) := by
  obtain ⟨ended, last⟩ := layout
  induction ended with
  | nil =>
      have hlast : lines (last.chars ++ []) = [last.chars ++ []] := lines_append last.isInline rfl
      rw [List.append_nil] at hlast
      simp [Layout.text, Layout.lines, hlast]
  | cons entry ended ih =>
      obtain ⟨line, mark⟩ := entry
      obtain ⟨others, hlines, hothers⟩ := lines_append_of_end mark (Layout.text ⟨ended, last⟩)
      have htext : Layout.text ⟨(line, mark) :: ended, last⟩ =
          line.chars ++ (mark.chars ++ Layout.text ⟨ended, last⟩) := by
        simp [Layout.text]
      rw [htext, lines_append line.isInline hlines, List.append_nil, Layout.lines, List.map_cons, List.cons_append,
        List.map_cons]
      simp only [written, List.filter_cons] at hothers ih ⊢
      rw [hothers, ih, Layout.lines]

/-- A function of lines that leaves out the empty one sees the same in a text and in its layout. -/
theorem filterMap_lines_text {α : Type} {f : List Char → Option α} (hempty : f [] = none) (layout : Layout) :
    (lines layout.text).filterMap f = layout.lines.filterMap fun line => f line.chars := by
  have hwritten (ls : List (List Char)) : (written ls).filterMap f = ls.filterMap f := by
    induction ls with
    | nil => rfl
    | cons l ls ih => cases l <;> simp_all [written, List.filterMap_cons]
  rw [← hwritten, written_lines_text, hwritten, List.filterMap_map]
  rfl

/-- Every text can be laid out along its lines. -/
theorem exists_layout (text : List Char) :
    ∃ layout : Layout, layout.text = text ∧ layout.lines.map Line.chars = lines text := by
  induction text using lines.induct with
  | case1 => exact ⟨⟨[], Line.empty⟩, rfl, rfl⟩
  | case2 rest ih =>
      obtain ⟨⟨ended, last⟩, htext, hlines⟩ := ih
      refine ⟨⟨(Line.empty, .pair) :: ended, last⟩, ?_, ?_⟩
      · rw [← htext]
        rfl
      · rw [lines, ← hlines]
        rfl
  | case3 c rest _ hend ih =>
      obtain ⟨⟨ended, last⟩, htext, hlines⟩ := ih
      obtain ⟨mark, hmark⟩ : ∃ mark : LineEnd, mark.chars = [c] := by
        rw [Bool.or_eq_true, decide_eq_true_eq, decide_eq_true_eq] at hend
        rcases hend with rfl | rfl
        · exact ⟨.lineFeed, rfl⟩
        · exact ⟨.carriageReturn, rfl⟩
      refine ⟨⟨(Line.empty, mark) :: ended, last⟩, ?_, ?_⟩
      · rw [← htext]
        simp [Layout.text, Line.empty, hmark]
      · rw [lines, if_pos hend, ← hlines]
        · rfl
        · assumption
  | case4 c rest _ hend ih =>
      have hc : IsInline c := by simpa [IsInline] using hend
      obtain ⟨⟨ended, last⟩, htext, hlines⟩ := ih
      rw [lines_cons hc, ← hlines, ← htext]
      cases ended with
      | nil => exact ⟨⟨[], last.pad [c] [] (by simpa using hc) (by simp)⟩, by simp [Layout.text, Line.pad],
          by simp [Layout.lines, Line.pad, extendFirst]⟩
      | cons entry ended =>
          exact ⟨⟨(entry.1.pad [c] [] (by simpa using hc) (by simp), entry.2) :: ended, last⟩,
            by simp [Layout.text, Line.pad], by simp [Layout.lines, Line.pad, extendFirst]⟩

/-- Behind the last end of a text there is nothing. -/
theorem Layout.last_of_text_eq_append_end {layout : Layout} {front : List Char} {mark : LineEnd}
    (h : layout.text = front ++ mark.chars) : layout.last.chars = [] := by
  by_contra hlast
  obtain ⟨init, c, hconcat⟩ := List.eq_nil_or_concat' layout.last.chars |>.resolve_left hlast
  have hc : IsInline c := layout.last.isInline c (by simp [hconcat])
  rw [Layout.text, hconcat, ← List.append_assoc] at h
  have hend : (front ++ mark.chars).getLast? = some c := by rw [← h, List.getLast?_concat]
  cases mark
  all_goals
    simp [LineEnd.chars] at hend
    simp [IsInline, ← hend] at hc

/-- What a function that leaves out the empty line sees in a text that ends with a line end and in what follows
it. -/
theorem filterMap_lines_append {α : Type} {f : List Char → Option α} (hempty : f [] = none) {text : List Char}
    (hend : ∃ front, ∃ mark : LineEnd, text = front ++ mark.chars) (other : List Char) :
    (lines (text ++ other)).filterMap f = (lines text).filterMap f ++ (lines other).filterMap f := by
  obtain ⟨layout, rfl, -⟩ := exists_layout text
  obtain ⟨later, rfl, -⟩ := exists_layout other
  obtain ⟨front, mark, htext⟩ := hend
  have hlast : layout.last.chars = [] := Layout.last_of_text_eq_append_end htext
  rw [← Layout.text_append hlast, filterMap_lines_text hempty, filterMap_lines_text hempty,
    filterMap_lines_text hempty]
  simp [Layout.lines, Layout.append, hlast, hempty, List.filterMap_append]

/-- Blanks around a text are cut off with its own. -/
theorem trim_append {front back : List Char} (hfront : ∀ c ∈ front, isBlank c = true)
    (hback : ∀ c ∈ back, isBlank c = true) (cs : List Char) : trim (front ++ cs ++ back) = trim cs := by
  rw [trim, trimBy, trim, trimBy, List.append_assoc, List.dropWhile_append_of_pos hfront, List.dropWhile_append]
  split_ifs with hcs
  · rw [List.isEmpty_iff.mp hcs, List.dropWhile_eq_nil_iff.mpr hback]
  · rw [List.reverse_append, List.dropWhile_append_of_pos]
    simpa using hback

end Gatekeeper.Text
