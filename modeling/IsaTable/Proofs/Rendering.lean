/-
  Rendering into a sink.

  Each format writes its text in many steps, and stops at the first one that is refused. But what a sink
  takes depends on the text alone: all of it if there is room, and otherwise its beginning.

  * `Sink.writeAll_eq_write`: where a text is cut into pieces does not matter.
  * `Sink.forIn_eq_writeAll`: what a loop writes, from what its body writes.
  * `Dispatch.write_eq_writeAll`, `CodeList.write_eq_writeAll`, `Format.renderInto_eq`: the steps of each
    format write the pieces of its text.
  * `Sink.write_of_bounded`: a sink takes the characters that fit, and refuses the next one.
  * `Format.render_of_pieces`, `Format.render_of_collision`: what becomes of a table without a limit.
  * `Format.renderInto_bounded`: what becomes of it with a limit.
-/
import IsaTable.Output.Format

namespace IsaTable

namespace Sink

/-! ## Pieces -/

theorem write_append (s : Sink) (a b : String) : s.write (a ++ b) = s.write a >>= (·.write b) := by
  rw [write, String.toList_append, List.foldlM_append]
  rfl

theorem writeAll_nil (s : Sink) : s.writeAll [] = pure s :=
  rfl

theorem writeAll_cons (s : Sink) (piece : String) (pieces : List String) :
    s.writeAll (piece :: pieces) = s.write piece >>= (·.writeAll pieces) :=
  List.foldlM_cons

theorem writeAll_append (s : Sink) (ps qs : List String) :
    s.writeAll (ps ++ qs) = s.writeAll ps >>= (·.writeAll qs) :=
  List.foldlM_append

/-- Pieces are written as the text that they form is. -/
theorem writeAll_eq_write (s : Sink) (pieces : List String) :
    s.writeAll pieces = s.write (String.join pieces) := by
  induction pieces generalizing s with
  | nil => rfl
  | cons piece pieces ih =>
    rw [writeAll_cons, String.join_cons, write_append]
    simp only [ih]

theorem writeLines_eq_writeAll (s : Sink) (lines : List String) :
    s.writeLines lines = s.writeAll (lines.map (· ++ "\n")) := by
  rw [writeAll, List.foldlM_map]
  rfl

/-- **What a loop writes:** if its body writes one piece for each item, these pieces. -/
theorem forIn_eq_writeAll {α : Type} {body : α → Sink → Except Sink (ForInStep Sink)}
    {piece : α → String} (h : ∀ item s, body item s = ForInStep.yield <$> s.write (piece item))
    (items : List α) (s : Sink) : forIn items s body = s.writeAll (items.map piece) := by
  obtain rfl : body = fun item s => ForInStep.yield <$> s.write (piece item) :=
    funext fun item => funext (h item)
  rw [List.forIn_yield_eq_foldlM, writeAll, List.foldlM_map]
  simp only [id_map']

/-! ## Limits -/

/-- **A sink takes the characters that fit.** If some are left, it is full and refuses them. -/
theorem foldlM_put_of_bounded (room : Nat) (text : String) (cs : List Char) :
    cs.foldlM put ⟨some room, text⟩ =
      if cs.length ≤ room then .ok ⟨some (room - cs.length), text ++ String.ofList cs⟩
      else .error ⟨some 0, text ++ String.ofList (cs.take room)⟩ := by
  induction cs generalizing room text with
  | nil => simp [pure, Except.pure]
  | cons c cs ih =>
    rw [List.foldlM_cons]
    cases room with
    | zero =>
      have hput : put ⟨some 0, text⟩ c = .error ⟨some 0, text⟩ := rfl
      simp [hput, bind, Except.bind]
    | succ room =>
      have hput : put ⟨some (room + 1), text⟩ c = .ok ⟨some room, text.push c⟩ := rfl
      have hcat (ds : List Char) :
          text.push c ++ String.ofList ds = text ++ String.ofList (c :: ds) := by
        apply String.toList_inj.1
        simp
      rw [hput, List.take_succ_cons, ← hcat, ← hcat]
      refine (ih room (text.push c)).trans ?_
      simp only [List.length_cons, Nat.add_le_add_iff_right, Nat.add_sub_add_right]

theorem write_of_bounded (room : Nat) (text : String) :
    write (.bounded room) text =
      if text.length ≤ room then .ok ⟨some (room - text.length), text⟩
      else .error ⟨some 0, String.ofList (text.toList.take room)⟩ := by
  have h := foldlM_put_of_bounded room "" text.toList
  rwa [String.length_toList, String.empty_append, String.ofList_toList, String.empty_append] at h

end Sink

/-! ## The steps of each format -/

namespace CodeList

/-- The loop over a table writes the code list. -/
theorem write_eq_writeAll (perLine : Nat) (t : Table) (s : Sink) :
    write perLine t s = s.writeAll (pieces perLine t) := by
  rw [write, bind_pure]
  refine Sink.forIn_eq_writeAll ?_ _ s
  rintro ⟨entry, position⟩ s
  simp only [piece]
  split
  · simp only [Sink.write_append _ _ "\n", bind_pure_comp, map_bind]
    rfl
  · rw [String.append_empty, bind_pure_comp]

end CodeList

namespace Dispatch

/-- Behind the first text, there is a comma before each. -/
theorem append_join_zipIdx (first : String) (texts : List String) (k : Nat) :
    first ++ String.join ((texts.zipIdx (k + 1)).map fun (text, position) =>
      (if position > 0 then ", " else "") ++ text) = String.intercalate ", " (first :: texts) := by
  induction texts generalizing first k with
  | nil => simp
  | cons text texts ih =>
    rw [String.intercalate_cons_cons, ← ih text (k + 1)]
    simp [String.append_assoc]

theorem join_zipIdx (texts : List String) :
    String.join (texts.zipIdx.map fun (text, position) => (if position > 0 then ", " else "") ++ text) =
      String.intercalate ", " texts := by
  cases texts with
  | nil => simp
  | cons first texts =>
    rw [← append_join_zipIdx first texts 0]
    simp

/-- The loop over the variants writes them with commas between them. -/
theorem writeAllVariants_eq_write (enumName : String) (idents : List String) (s : Sink) :
    writeAllVariants enumName idents s =
      s.write (String.intercalate ", " (idents.map (qualified enumName))) := by
  rw [← join_zipIdx, List.zipIdx_map, List.map_map, ← Sink.writeAll_eq_write, writeAllVariants,
    bind_pure]
  refine Sink.forIn_eq_writeAll ?_ _ s
  rintro ⟨ident, position⟩ s
  simp only [bind_pure_comp, Function.comp_apply, Prod.map_fst, Prod.map_snd, id_eq]
  split
  · simp only [Sink.write_append, map_bind]
  · rw [String.empty_append]

/-- The steps of a module write its text. -/
theorem write_eq_writeAll (d : Dispatch) (s : Sink) : d.write s = s.writeAll d.pieces := by
  have hloop {α : Type} (line : α → String) (items : List α) (s : Sink) :
      (forIn items s fun item s => ForInStep.yield <$> s.writeLine (line item)) =
        s.writeAll ((items.map line).map (· ++ "\n")) := by
    rw [List.map_map]
    exact Sink.forIn_eq_writeAll (fun _ _ => rfl) items s
  -- both sides become one sequence of writes: first part by part, then the lines in the middle
  simp only [write, pieces, lines, bind_pure_comp, List.map_append, List.append_assoc,
    Sink.writeAll_append, Sink.writeLines_eq_writeAll, hloop]
  simp only [allLine, List.map_cons, List.map_nil, Sink.writeAll_cons, Sink.writeAll_nil, Sink.writeLine,
    String.append_assoc, Sink.write_append, writeAllVariants_eq_write, bind_assoc, pure_bind]

end Dispatch

namespace Format

variable {f : Format} {t : Table}

/-- The steps of each format write the pieces of its text. -/
theorem renderInto_eq (f : Format) (t : Table) (sink : Sink) :
    f.renderInto t sink =
      match f.pieces t with
      | .error collision => .error ⟨.collision collision, sink⟩
      | .ok pieces => (sink.writeAll pieces).mapError (⟨.full, ·⟩) := by
  cases f with
  | rust style =>
    rw [renderInto, pieces]
    cases Dispatch.ofTable style t with
    | error collision => rfl
    | ok dispatch => simp only [dispatch.write_eq_writeAll, Except.map]
  | onikiri perLine => simp only [renderInto, pieces, CodeList.write_eq_writeAll]
  | json => simp only [renderInto, pieces, Sink.writeAll_cons, Sink.writeAll_nil, bind_pure]

/-- Without a limit, the pieces are written one after the other. -/
theorem renderInto_of_pieces {ps : List String} (h : f.pieces t = .ok ps) :
    f.renderInto t .unbounded = .ok ⟨none, ps.foldl (· ++ ·) ""⟩ := by
  have hwrite : Sink.writeAll .unbounded ps = .ok ⟨none, ps.foldl (· ++ ·) ""⟩ :=
    Sink.writeAll_of_unbounded "" ps
  rw [renderInto_eq, h]
  simp only [hwrite]
  rfl

/-- The text consists of the pieces. -/
theorem render_of_pieces {ps : List String} (h : f.pieces t = .ok ps) :
    f.render t = .ok (ps.foldl (· ++ ·) "") := by
  rw [render, renderInto_of_pieces h]
  rfl

/-- A collision is found before anything is written. -/
theorem renderInto_of_collision {c : Collision} (h : f.pieces t = .error c) (sink : Sink) :
    f.renderInto t sink = .error ⟨.collision c, sink⟩ := by
  rw [renderInto_eq, h]

theorem render_of_collision {c : Collision} (h : f.pieces t = .error c) :
    f.render t = .error ⟨.collision c, .unbounded⟩ := by
  rw [render, renderInto_of_collision h]
  rfl

/-- **Rendering with a limit.** A text that fits is written as a whole; of a longer one the sink holds
    the beginning, as many characters as it takes, and the rendering fails. Where there is no text, it
    fails for the same reason and nothing is written. -/
theorem renderInto_bounded (f : Format) (t : Table) (limit : Nat) :
    f.renderInto t (.bounded limit) =
      match f.render t with
      | .ok text =>
        if text.length ≤ limit then .ok ⟨some (limit - text.length), text⟩
        else .error ⟨.full, ⟨some 0, String.ofList (text.toList.take limit)⟩⟩
      | .error e => .error ⟨e.fault, .bounded limit⟩ := by
  cases hps : f.pieces t with
  | error c => rw [render_of_collision hps, renderInto_of_collision hps]
  | ok ps =>
    have htext : f.render t = .ok (String.join ps) := render_of_pieces hps
    rw [htext, renderInto_eq, hps]
    simp only [Sink.writeAll_eq_write, Sink.write_of_bounded]
    split <;> rfl

end Format

end IsaTable
