import CodeMentor.Proofs.Backend.Draining

/-!
# Frames and padding of lines

A backend may send its lines as they are, with white space around them, or in the frame of an event
stream. A line is read by what is left when the white space and the frame are gone, so all these
spellings are the same line. The main result carries this from the lines to the streams: whatever
spelling is chosen for each line, and however the bytes are cut, the fragments are the same.
-/

namespace CodeMentor

open CodeMentor.Text

/-- White space that does not end a line. -/
def IsPadding (s : String) : Prop :=
  ∀ c ∈ s.toList, isSpace c = true ∧ c ≠ '\n'

instance (s : String) : Decidable (IsPadding s) :=
  List.decidableBAll (fun c ↦ isSpace c = true ∧ c ≠ '\n') s.toList

/-- The spellings of a line: with white space around it, or behind the mark of an event stream. -/
inductive LineSpelling (line : String) : String → Prop
  | padded {front back : String} (hfront : IsPadding front) (hback : IsPadding back) :
    LineSpelling line (front ++ line ++ back)
  | framed {front middle back : String} (hfront : IsPadding front) (hmiddle : IsPadding middle)
    (hback : IsPadding back) :
    LineSpelling line (front ++ "data:" ++ middle ++ line ++ back)

/-! ## One line -/

theorem IsPadding.isSpace {s : String} (h : IsPadding s) : ∀ c ∈ s.toList, isSpace c = true :=
  fun c hc ↦ (h c hc).1

theorem IsPadding.newline_not_mem {s : String} (h : IsPadding s) : '\n' ∉ s.toList :=
  fun hc ↦ (h '\n' hc).2 rfl

theorem trim_padded {front back : String} (hfront : IsPadding front) (hback : IsPadding back)
    (line : String) : trim (front ++ line ++ back) = trim line := by
  rw [trim, String.toList_append, String.toList_append, strip_append_right hback.isSpace,
    strip_append_left hfront.isSpace, trim]

/-- The mark keeps the white space in front of it from the text behind it. -/
theorem trim_framed {front : String} (hfront : IsPadding front) (text : String) :
    trim (front ++ "data:" ++ text) = "data:" ++ trimEnd text := by
  have hend : (trimEnd text).toList = dropEndWhile Text.isSpace text.toList := String.toList_ofList
  have hmarked : strip Text.isSpace ("data:".toList ++ text.toList) =
      "data:".toList ++ dropEndWhile Text.isSpace text.toList :=
    dropEndWhile_append_cons (a := ':') rfl "data".toList text.toList
  rw [← String.toList_inj, trim, String.toList_ofList, String.toList_append, String.toList_append,
    List.append_assoc, strip_append_left hfront.isSpace, String.toList_append, hend, hmarked]

theorem trim_trimEnd (s : String) : trim (trimEnd s) = trim s := by
  rw [trim, trimEnd, String.toList_ofList, strip_dropEndWhile, trim]

theorem payloadText_of_plain {line : String} (h : startsWith (trim line) "data:" = false) :
    payloadText line = trim line := by
  have hnone : stripHead? "data:" (trim line) = none := by
    rw [startsWith, Option.isSome_eq_false_iff, Option.isNone_iff_eq_none] at h
    rw [stripHead?, h, Option.map_none]
  simp [payloadText, hnone]

theorem payloadText_of_framed {line text : String} (h : trim line = "data:" ++ text) :
    payloadText line = trim text := by
  have hsome : stripHead? "data:" (trim line) = some text := by
    rw [stripHead?, h, after?_eq_some_iff.mpr String.toList_append, Option.map_some,
      String.ofList_toList]
  simp [payloadText, hsome]

theorem LineSpelling.payloadText {line line' : String} (h : LineSpelling line line')
    (hline : startsWith (trim line) "data:" = false) :
    CodeMentor.payloadText line' = CodeMentor.payloadText line := by
  rw [payloadText_of_plain hline]
  cases h with
  | padded hfront hback =>
      have htrim := trim_padded hfront hback line
      rw [payloadText_of_plain ((congrArg (startsWith · "data:") htrim).trans hline), htrim]
  | @framed front middle back hfront hmiddle hback =>
      have htrim := trim_framed hfront (middle ++ line ++ back)
      simp only [← String.append_assoc] at htrim
      rw [payloadText_of_framed htrim, trim_trimEnd, trim_padded hmiddle hback]

theorem parse_congr {line line' : String} (h : payloadText line' = payloadText line) :
    StreamLine.parse line' = StreamLine.parse line := by
  simp only [StreamLine.parse, h]

theorem LineSpelling.newline_not_mem {line line' : String} (h : LineSpelling line line')
    (hline : '\n' ∉ line.toList) : '\n' ∉ line'.toList := by
  cases h with
  | padded hfront hback =>
      simp [hfront.newline_not_mem, hback.newline_not_mem, hline]
  | framed hfront hmiddle hback =>
      simp [hfront.newline_not_mem, hmiddle.newline_not_mem, hback.newline_not_mem, hline]

/-! ## All lines -/

/-- The bytes of lines with a newline between each two. -/
def joinedBytes (lines : List String) : List UInt8 :=
  Utf8.encode ("\n".intercalate lines)

theorem joinedBytes_cons_cons (line next : String) (lines : List String) :
    joinedBytes (line :: next :: lines) =
      Utf8.encode line ++ newlineByte :: joinedBytes (next :: lines) := by
  rw [joinedBytes, String.intercalate_cons_cons, Utf8.encode_append, Utf8.encode_append,
    List.append_assoc]
  rfl

theorem fragmentsOf_encode_complete {line : String} (h : '\n' ∉ line.toList) :
    fragmentsOf (Utf8.encode line) .complete = (StreamLine.parse line).yield := by
  rw [fragmentsOf_complete (endsLine_eq_false_of_mem_encode h), Utf8.lossy_encode]
  split
  next hnil =>
    -- No bytes are no line, and an empty line adds nothing.
    have hempty : line = "" := by rw [← Utf8.lossy_encode line, hnil]; rfl
    rw [hempty]
    rfl
  next => rfl

theorem fragmentsOf_encode_congr {line line' : String} (h : '\n' ∉ line.toList)
    (h' : '\n' ∉ line'.toList) (hparse : StreamLine.parse line' = StreamLine.parse line)
    (ending : Ending) :
    fragmentsOf (Utf8.encode line') ending = fragmentsOf (Utf8.encode line) ending := by
  cases ending with
  | complete => rw [fragmentsOf_encode_complete h', fragmentsOf_encode_complete h, hparse]
  | failed cause =>
      rw [fragmentsOf_failed (endsLine_eq_false_of_mem_encode h'),
        fragmentsOf_failed (endsLine_eq_false_of_mem_encode h)]

/-- The line has no newline in it and is in no frame. -/
structure IsPlainLine (line : String) : Prop where
  newline : '\n' ∉ line.toList
  mark : startsWith (trim line) "data:" = false

/-- The induction is on the lines. The last one has no newline behind it, so it counts only if the
bytes are complete. -/
theorem fragmentsOf_joinedBytes {lines lines' : List String}
    (hspelled : List.Forall₂ LineSpelling lines lines') (hplain : ∀ line ∈ lines, IsPlainLine line)
    (ending : Ending) :
    fragmentsOf (joinedBytes lines') ending = fragmentsOf (joinedBytes lines) ending := by
  induction hspelled with
  | nil => rfl
  | @cons line line' lines lines' hline hrest ih =>
      obtain ⟨hfirst, hothers⟩ := List.forall_mem_cons.mp hplain
      have hnewline := hline.newline_not_mem hfirst.newline
      have hparse := parse_congr (hline.payloadText hfirst.mark)
      cases hrest with
      | nil => exact fragmentsOf_encode_congr hfirst.newline hnewline hparse ending
      | cons hnext hrest =>
          rw [joinedBytes_cons_cons, joinedBytes_cons_cons,
            fragmentsOf_line (endsLine_eq_false_of_mem_encode hnewline),
            fragmentsOf_line (endsLine_eq_false_of_mem_encode hfirst.newline), Utf8.lossy_encode,
            Utf8.lossy_encode, hparse, ih hothers]

/-- Two streams deliver the same lines in different spellings, cut into chunks in any way, and end
alike. They give the same fragments, so that what is collected is the same. -/
theorem spelled_lines_arrive {lines lines' : List String}
    (hplain : ∀ line ∈ lines, IsPlainLine line)
    (hspelled : List.Forall₂ LineSpelling lines lines') {source source' : ByteStream}
    {idle idle' : Duration}
    (hcontent : (source.delivery idle).content = Utf8.encode ("\n".intercalate lines))
    (hcontent' : (source'.delivery idle').content = Utf8.encode ("\n".intercalate lines'))
    (hending : (source'.delivery idle').ending = (source.delivery idle).ending) :
    let s := FragmentStream.new source idle
    let s' := FragmentStream.new source' idle'
    s'.fragments = s.fragments ∧ s'.collect = s.collect := by
  intro s s'
  have hfragments : s'.fragments = s.fragments := by
    rw [FragmentStream.fragments_new, FragmentStream.fragments_new, hcontent, hcontent', hending]
    exact fragmentsOf_joinedBytes hspelled hplain _
  exact ⟨hfragments, congrArg FragmentStream.joinFragments hfragments⟩

/-- Three lines as they are in one chunk, and in other spellings in two chunks: an empty line in a
frame, one in a frame with a carriage return behind it, and one with a space and a tab around it. -/
theorem spelled_lines_arrive_framed :
    let line := "\x7b\"response\":\"é\"\x7d"
    let bytes := Utf8.encode ("\n".intercalate ["", line, "[DONE]"])
    let bytes' := Utf8.encode ("\n".intercalate
      ["" ++ "data:" ++ " " ++ "" ++ "", "" ++ "data:" ++ " " ++ line ++ "\r",
        " " ++ "[DONE]" ++ "\t"])
    let idle := Duration.ofSeconds 1
    (FragmentStream.new [.bytes bytes] idle).fragments = [.ok "é"] ∧
      (FragmentStream.new [.bytes (bytes'.take 29), .bytes (bytes'.drop 29)] idle).fragments =
        [.ok "é"] := by
  intro line bytes bytes' idle
  have hplain : ∀ text ∈ ["", line, "[DONE]"], IsPlainLine text := by
    simp only [List.forall_mem_cons]
    exact ⟨⟨by decide, by decide +kernel⟩, ⟨by decide, by decide +kernel⟩,
      ⟨by decide, by decide +kernel⟩, by simp⟩
  have hspelled : List.Forall₂ LineSpelling ["", line, "[DONE]"]
      ["" ++ "data:" ++ " " ++ "" ++ "", "" ++ "data:" ++ " " ++ line ++ "\r",
        " " ++ "[DONE]" ++ "\t"] :=
    .cons (.framed (by decide) (by decide) (by decide))
      (.cons (.framed (by decide) (by decide) (by decide))
        (.cons (.padded (by decide) (by decide)) .nil))
  have hwhole : ByteStream.delivery [.bytes bytes] idle = ⟨[bytes], .complete⟩ :=
    ByteStream.delivery_chunks [bytes] idle
  have hcut : ByteStream.delivery [.bytes (bytes'.take 29), .bytes (bytes'.drop 29)] idle =
      ⟨[bytes'.take 29, bytes'.drop 29], .complete⟩ :=
    ByteStream.delivery_chunks [bytes'.take 29, bytes'.drop 29] idle
  have hfirst : (FragmentStream.new [.bytes bytes] idle).fragments = [.ok "é"] := by
    rw [FragmentStream.fragments_new]
    decide +kernel
  refine ⟨hfirst, ?_⟩
  rw [← hfirst]
  refine (spelled_lines_arrive hplain hspelled ?_ ?_ ?_).1
  · rw [hwhole]
    exact List.append_nil bytes
  · rw [hcut, Delivery.content, List.flatten_cons, List.flatten_cons, List.flatten_nil,
      List.append_nil, List.take_append_drop]
  · rw [hwhole, hcut]

end CodeMentor
