import Hostkeeper.Vm.Console
import Hostkeeper.Proofs.Text.Lines
import Hostkeeper.Proofs.Text.Utf8
import Mathlib.Data.List.DropRight

/-! What a console holds after a stream. The stream is read line by line, and its lines are those of its whole text:
a line feed is no part of a broken sequence, so no line depends on the bytes of another. -/
namespace Hostkeeper.ConsoleBuffer

open Text.Utf8 (Reads scan scan_append_ascii scan_char reads_iff)

/-- The buffer holds the last of some lines. -/
structure Keeps (b : ConsoleBuffer) (all : List String) : Prop where
  room : 0 < b.capacity
  last : b.lines = all.rtake b.capacity

section Keeping

variable {b : ConsoleBuffer} {all : List String}

theorem keeps_new (capacity : Nat) : (new capacity).Keeps [] :=
  ⟨Nat.lt_of_lt_of_le Nat.one_pos (Nat.le_max_right capacity 1),(List.rtake_nil _).symm⟩

theorem Keeps.push (keeps : b.Keeps all) (line : String) : (b.push line).Keeps (all ++ [line]) := by
  refine ⟨keeps.room,?_⟩
  obtain ⟨k,size⟩ := Nat.exists_eq_succ_of_ne_zero keeps.room.ne'
  change (if b.lines.length = b.capacity then b.lines.drop 1 else b.lines) ++ [line] =
    (all ++ [line]).rtake b.capacity
  rw [keeps.last,size,List.rtake_concat_succ,List.rtake,List.rtake,List.length_drop,List.drop_drop]
  congr 1
  split
  next full => rw [show all.length - k.succ + 1 = all.length - k by omega]
  next free => rw [show all.length - k.succ = 0 by omega,show all.length - k = 0 by omega]

theorem Keeps.pushAll (keeps : b.Keeps all) (lines : List String) : (b.pushAll lines).Keeps (all ++ lines) := by
  induction lines generalizing b all with
  | nil => rwa [List.append_nil]
  | cons line lines ih =>
    have later := ih (keeps.push line)
    rwa [List.append_assoc] at later

@[simp] theorem capacity_pushAll (b : ConsoleBuffer) (lines : List String) :
    (b.pushAll lines).capacity = b.capacity := by
  induction lines generalizing b with
  | nil => rfl
  | cons line lines ih => exact ih (b.push line)

theorem Keeps.lines (keeps : b.Keeps all) : b.Keeps b.lines := by
  refine ⟨keeps.room,?_⟩
  have size : b.lines.length ≤ b.capacity := by
    rw [keeps.last,List.rtake,List.length_drop]
    omega
  rw [List.rtake,Nat.sub_eq_zero_of_le size,List.drop_zero]

end Keeping

/-- The characters of a stream, each fault shown as the replacement character. -/
def shown (read : List (Option Char)) : List Char := read.map (·.getD '\uFFFD')

/-- The pieces of a text between its line feeds; what follows the last one is a piece unless it is empty. -/
def pieces (text : List Char) : List (List Char) :=
  if (text.splitOn '\n').getLast? = some [] then (text.splitOn '\n').dropLast else text.splitOn '\n'

/-- The lines of a text: its pieces without the carriage returns at their ends. -/
def linesOf (text : List Char) : List String :=
  (pieces text).map fun piece => String.ofList (piece.rdropWhile (· == '\r'))

section Pieces

variable {front : List Char}

theorem pieces_single (single : '\n' ∉ front) (filled : front ≠ []) : pieces front = [front] := by
  simp [pieces,Text.splitOn_of_absent single,filled]

theorem pieces_append (single : '\n' ∉ front) (rest : List Char) :
    pieces (front ++ '\n' :: rest) = front :: pieces rest := by
  have whole : (front ++ '\n' :: rest).splitOn '\n' = front :: rest.splitOn '\n' := by
    have separated := List.splitOnP_append_cons (p := (· == '\n')) front rest (beq_self_eq_true '\n')
    exact separated.trans (congrArg (· ++ _) (Text.splitOn_of_absent single))
  obtain ⟨piece,more,cut⟩ := List.exists_cons_of_ne_nil (List.splitOn_ne_nil '\n' rest)
  rw [pieces,pieces,whole,cut,List.getLast?_cons_cons,List.dropLast_cons_cons]
  split
  · rfl
  · rfl

end Pieces

section Segments

variable {front : List UInt8}

theorem segments_single (single : 10 ∉ front) (filled : front ≠ []) : segments front = [front] := by
  induction front with
  | nil => exact absurd rfl filled
  | cons b front ih =>
    have other : b ≠ 10 := fun same => single (same ▸ List.mem_cons_self)
    rw [segments,if_neg other]
    cases front with
    | nil => rfl
    | cons b' more => rw [ih (fun member => single (List.mem_cons_of_mem b member)) (List.cons_ne_nil b' more)]

theorem segments_append (single : 10 ∉ front) (rest : List UInt8) :
    segments (front ++ 10 :: rest) = (front ++ [10]) :: segments rest := by
  induction front with
  | nil => rfl
  | cons b front ih =>
    have other : b ≠ 10 := fun same => single (same ▸ List.mem_cons_self)
    rw [List.cons_append,segments,if_neg other,ih fun member => single (List.mem_cons_of_mem b member)]
    rfl

theorem shown_feed (front rest : List UInt8) :
    shown (scan none (front ++ 10 :: rest)) = shown (scan none front) ++ '\n' :: shown (scan none rest) := by
  have feed : Text.Utf8.lead 10 = .char '\n' := rfl
  rw [scan_append_ascii (by simp) (by decide),scan_char feed,shown,List.map_append]
  rfl

/-- A line feed is read only where its byte stands. -/
theorem feed_not_mem_shown (single : 10 ∉ front) : '\n' ∉ shown (scan none front) := by
  intro member
  obtain ⟨found,inside,same⟩ := List.mem_map.mp member
  cases found with
  | none => exact absurd same (by decide)
  | some c =>
    obtain rfl : c = '\n' := same
    have written := (reads_iff.mpr rfl).encode_stands inside
    exact single (written.subset (by decide))

theorem dropWhile_congr {α : Type} {drop skip : α → Bool} {xs : List α} (same : ∀ x ∈ xs, drop x = skip x) :
    xs.dropWhile drop = xs.dropWhile skip := by
  induction xs with
  | nil => rfl
  | cons x xs ih =>
    have later := ih fun y member => same y (List.mem_cons_of_mem x member)
    rw [List.dropWhile_cons,List.dropWhile_cons,same x List.mem_cons_self,later]

theorem line_eq (segment : List UInt8) :
    line segment = String.ofList ((shown (scan none segment)).rdropWhile fun c => c = '\n' || c = '\r') := by
  rw [line,Text.Utf8.decodeLossy,String.toList_ofList]
  rfl

theorem line_unended (single : 10 ∉ front) :
    line front = String.ofList ((shown (scan none front)).rdropWhile (· == '\r')) := by
  rw [line_eq,List.rdropWhile,List.rdropWhile]
  congr 2
  refine dropWhile_congr fun c member => ?_
  have other : c ≠ '\n' := fun feed => feed_not_mem_shown single (feed ▸ List.mem_reverse.mp member)
  rw [decide_eq_false other,Bool.false_or]
  rfl

theorem line_ended (front : List UInt8) : line (front ++ [10]) = line front := by
  rw [line_eq,line_eq,shown_feed]
  exact congrArg String.ofList (List.rdropWhile_concat_pos _ _ _ rfl)

/-- Cutting a stream and reading each segment gives the lines of the whole text. -/
theorem map_line_segments (stream : List UInt8) :
    (segments stream).map line = linesOf (shown (scan none stream)) := by
  induction size : stream.length using Nat.strongRecOn generalizing stream with
  | ind size ih =>
    by_cases fed : 10 ∈ stream
    · obtain ⟨front,rest,rfl,single⟩ := List.eq_append_cons_of_mem fed
      have later := ih rest.length (by simp only [← size,List.length_append,List.length_cons]; omega) rest rfl
      rw [segments_append single,List.map_cons,later,line_ended,line_unended single,shown_feed,linesOf,linesOf,
        pieces_append (feed_not_mem_shown single),List.map_cons]
    · by_cases empty : stream = []
      · rw [empty]
        rfl
      · have filled : shown (scan none stream) ≠ [] := by
          intro hidden
          have reads : Reads stream [] := reads_iff.mpr (List.map_eq_nil_iff.mp hidden)
          cases reads
          exact empty rfl
        rw [segments_single fed empty,List.map_singleton,line_unended fed,linesOf,
          pieces_single (feed_not_mem_shown fed) filled,List.map_singleton]

end Segments

/-- After a stream the buffer holds the last of the lines it held and the lines of the stream, as the whole stream
reads. -/
theorem pump_keeps_the_last_lines (capacity : Nat) (earlier : List String) (stream : List UInt8) :
    ∃ read, (∀ other, Reads stream other ↔ other = read) ∧
      (((new capacity).pushAll earlier).pump stream).lines =
        (((new capacity).pushAll earlier).lines ++ linesOf (shown read)).rtake (max capacity 1) := by
  refine ⟨scan none stream,fun other => reads_iff.trans eq_comm,?_⟩
  have kept := ((keeps_new capacity).pushAll earlier).lines.pushAll (linesOf (shown (scan none stream)))
  have last := kept.last
  rw [capacity_pushAll,capacity_pushAll] at last
  rw [pump,map_line_segments,last]
  rfl

example : ((new 200).pump [0xFF,10,0x6C,0xC3,13,10,0x72]).lines = ["\uFFFD","l\uFFFD","r"] := by decide +kernel

end Hostkeeper.ConsoleBuffer
