import ChatRelay.Http.Server

/-!
# Event streams are read as they were written

A written event is three lines, of which the last one is blank. A reader finds the
events of a text again (`frames_chars`) when they have a name, and neither the
names nor the data hold a line break. This is so for everything that the stream of
an answer carries (`StreamMessage.frame_legible`), because the data is JSON text.
-/

namespace ChatRelay

/-- A text without line breaks. -/
def Unbroken (cs : List Char) : Prop := ∀ c ∈ cs, c ≠ '\n' ∧ c ≠ '\r'

instance (cs : List Char) : Decidable (Unbroken cs) :=
  List.decidableBAll (fun c => c ≠ '\n' ∧ c ≠ '\r') cs

theorem Unbroken.append {cs ds : List Char} (h : Unbroken cs) (h' : Unbroken ds) :
    Unbroken (cs ++ ds) := List.forall_mem_append.2 ⟨h, h'⟩

theorem Unbroken.cons {c : Char} {cs : List Char} (hc : c ≠ '\n' ∧ c ≠ '\r')
    (h : Unbroken cs) : Unbroken (c :: cs) := List.forall_mem_cons.2 ⟨hc, h⟩

/-! ## JSON text has no line breaks -/

namespace Json

open Text (hexDigit)

theorem escape_unbroken (c : Char) : Unbroken (escape c) := by
  have hdigit : ∀ n < 16, hexDigit n ≠ '\n' ∧ hexDigit n ≠ '\r' := by decide
  by_cases hnewline : c = '\n'
  · rw [hnewline]
    decide
  by_cases hreturn : c = '\r'
  · rw [hreturn]
    decide
  by_cases hcontrol : c.toNat < 0x20
  · have hhigh := hdigit (c.toNat / 16) (by omega)
    have hlow := hdigit (c.toNat % 16) (Nat.mod_lt _ (by decide))
    unfold escape
    repeat' split
    all_goals simp [Unbroken, hhigh, hlow]
  · unfold escape
    repeat' split
    all_goals simp [Unbroken, hnewline, hreturn]

theorem quote_unbroken (s : String) : Unbroken (quote s) := by
  refine Unbroken.cons (by decide) (Unbroken.append ?_ (by decide))
  intro d hd
  obtain ⟨c, -, hd⟩ := List.mem_flatMap.1 hd
  exact escape_unbroken c d hd

theorem Value.text_unbroken (s : String) : Unbroken (Value.text s).chars := by
  rw [Value.chars]
  exact quote_unbroken s

theorem Value.list_unbroken {items : List Value} (h : ∀ v ∈ items, Unbroken v.chars) :
    Unbroken (Value.list items).chars := by
  have hitems : Unbroken (itemsChars items) := by
    induction items with
    | nil => decide
    | cons v vs ih =>
      have hv := h v List.mem_cons_self
      cases vs with
      | nil => exact hv.append (by decide)
      | cons v' vs =>
        exact hv.append (.cons (by decide) (ih fun u hu => h u (List.mem_cons_of_mem _ hu)))
  rw [Value.chars]
  exact .cons (by decide) hitems

theorem Value.object_unbroken {members : List (String × Value)}
    (h : ∀ m ∈ members, Unbroken m.2.chars) : Unbroken (Value.object members).chars := by
  have hmembers : Unbroken (membersChars members) := by
    induction members with
    | nil => decide
    | cons m ms ih =>
      have hkey := (quote_unbroken m.1).append (.cons (by decide : ':' ≠ '\n' ∧ ':' ≠ '\r')
        (h m List.mem_cons_self))
      cases ms with
      | nil => exact hkey.append (by decide)
      | cons m' ms =>
        have hrest := ih fun u hu => h u (List.mem_cons_of_mem _ hu)
        exact hkey.append (.cons (by decide) hrest)
  rw [Value.chars]
  exact .cons (by decide) hmembers

end Json

namespace Http

/-! ## Reading what was written -/

/-- An event that can be read back. -/
structure Frame.Legible (f : Frame) : Prop where
  named : f.name ≠ ""
  name : Unbroken f.name.toList
  data : Unbroken f.data.toList

namespace EventStream

/-- The text up to a line break is a line. -/
theorem splitLines_append {line : List Char} (h : Unbroken line) (rest : List Char) :
    splitLines (line ++ '\n' :: rest) = line :: splitLines rest := by
  induction line with
  | nil => rw [List.nil_append, splitLines]
  | cons c line ih =>
    obtain ⟨hc, hline⟩ := List.forall_mem_cons.1 h
    rw [List.cons_append, splitLines, ih hline]
    · exact fun heq => absurd heq hc.2
    · exact fun _ heq => absurd heq hc.2
    · exact fun heq => absurd heq hc.2
    · exact hc.1

/-- The lines of a written event. -/
def linesOf (f : Frame) : List (List Char) :=
  [['e', 'v', 'e', 'n', 't', ':', ' '] ++ f.name.toList,
    ['d', 'a', 't', 'a', ':', ' '] ++ f.data.toList, []]

theorem splitLines_chars {f : Frame} (h : f.Legible) (rest : List Char) :
    splitLines (f.chars ++ rest) = linesOf f ++ splitLines rest := by
  have hname : Unbroken (['e', 'v', 'e', 'n', 't', ':', ' '] ++ f.name.toList) :=
    Unbroken.append (by decide) h.name
  have hdata : Unbroken (['d', 'a', 't', 'a', ':', ' '] ++ f.data.toList) :=
    Unbroken.append (by decide) h.data
  have hchars : f.chars ++ rest =
      (['e', 'v', 'e', 'n', 't', ':', ' '] ++ f.name.toList) ++ '\n' ::
        ((['d', 'a', 't', 'a', ':', ' '] ++ f.data.toList) ++ '\n' :: ([] ++ '\n' :: rest)) := by
    simp [Frame.chars]
  rw [hchars, splitLines_append hname, splitLines_append hdata,
    splitLines_append (show Unbroken [] from nofun)]
  rfl

/-- The lines of written events are those of one after the other, by induction on the events. -/
theorem lines_chars {fs : List Frame} (h : ∀ f ∈ fs, f.Legible) :
    lines (fs.flatMap Frame.chars) = fs.flatMap linesOf := by
  have hsplit : splitLines (fs.flatMap Frame.chars) = fs.flatMap linesOf ++ [[]] := by
    induction fs with
    | nil => rfl
    | cons f fs ih =>
      obtain ⟨hf, hfs⟩ := List.forall_mem_cons.1 h
      rw [List.flatMap_cons, splitLines_chars hf, ih hfs, List.flatMap_cons, List.append_assoc]
  rw [lines, hsplit, List.dropLast_concat]

/-- The two fields of a written event make up what is known of it, and the blank line ends it. -/
theorem framesOf_linesOf {f : Frame} (h : f.name ≠ "") (rest : List (List Char)) :
    framesOf {} (linesOf f ++ rest) = f :: framesOf {} rest := by
  have hname : f.name.toList.isEmpty = false := by simpa using h
  simp [linesOf, framesOf, Pending.add, field, Pending.frame?, hname]

/-- Written events are read as they were. -/
theorem frames_chars {fs : List Frame} (h : ∀ f ∈ fs, f.Legible) :
    frames (fs.flatMap Frame.chars) = fs := by
  have hread : framesOf {} (fs.flatMap linesOf) = fs := by
    induction fs with
    | nil => rfl
    | cons f fs ih =>
      obtain ⟨hf, hfs⟩ := List.forall_mem_cons.1 h
      rw [List.flatMap_cons, framesOf_linesOf hf.named, ih hfs]
  have hframes :
      frames (fs.flatMap Frame.chars) = framesOf {} (lines (fs.flatMap Frame.chars)) := by
    cases fs with
    | nil => rfl
    | cons f fs => rfl
  rw [hframes, lines_chars h, hread]

end EventStream

/-! ## What the stream of an answer carries -/

end Http

open Json (Value)

theorem messagesMember_unbroken (messages : List MessageView) :
    ∀ m ∈ messagesMember MessageView.toJson messages, Unbroken m.2.chars := by
  have hview : ∀ v : MessageView, Unbroken v.toJson.chars := fun v =>
    Value.object_unbroken (by
      simp [Role.toJson, Time.Instant.toJson, Value.text_unbroken])
  cases messages with
  | nil => exact nofun
  | cons v vs =>
    refine List.forall_mem_singleton.2 (Value.list_unbroken fun u hu => ?_)
    obtain ⟨v', -, rfl⟩ := List.mem_map.1 hu
    exact hview v'

theorem ConversationView.toJson_unbroken (c : ConversationView) : Unbroken c.toJson.chars := by
  refine Value.object_unbroken (List.forall_mem_append.2 ⟨?_, messagesMember_unbroken _⟩)
  simp [Status.toJson, Time.Instant.toJson, Value.text_unbroken]

namespace Generation

theorem Event.toJson_unbroken (e : Event) : Unbroken e.toJson.chars := by
  have hmessage : ∀ m : Option String,
      ∀ member ∈ Json.member? "message" .text m, Unbroken member.2.chars := fun m => by
    cases m <;> simp [Json.member?, Value.text_unbroken]
  refine Value.object_unbroken (List.forall_mem_cons.2 ⟨Value.text_unbroken _, ?_⟩)
  cases e with
  | content text => exact List.forall_mem_singleton.2 (Value.text_unbroken _)
  | modelReady m | outputComplete m | outputEnd m => exact hmessage m
  | sessionUpdated c m | titleGenerated c m =>
    exact List.forall_mem_cons.2 ⟨c.toJson_unbroken, hmessage m⟩

end Generation

namespace Http

/-- Whatever the stream of an answer carries can be read back. -/
theorem StreamMessage.frame_legible (m : StreamMessage) : m.frame.Legible := by
  cases m with
  | event e =>
    have hname : e.name ≠ "" ∧ Unbroken e.name.toList := by
      unfold Generation.Event.name
      cases e.kind <;> decide
    exact ⟨hname.1, hname.2, by simpa [frame, Value.compact] using e.toJson_unbroken⟩
  | failed e =>
    have hdata : Unbroken (Value.object
        [("code", .text e.code.name), ("message", .text e.message)]).chars :=
      Value.object_unbroken (by simp [Value.text_unbroken])
    have hname : Unbroken "error".toList := by decide
    exact ⟨by simp [frame], hname, by simpa [frame, Value.compact] using hdata⟩

end Http

end ChatRelay
