import ChatRelay.Proofs.Json.Value

/-!
# Records are read back

A decoder `Reads` a value when it makes the right thing of what is read of its
text. There is one rule for each way of putting decoders together.

The fields of a record are looked for in the members of an object, each at its
name (`Fields.Accepts`), so that a record is read when no name comes twice
(`Reads.record`). A choice is read when its tag comes first (`tagged_source`).
-/

namespace ChatRelay.Json

variable {α β : Type}

/-! ## Values without faults -/

/-- A value that is not too deep for some room is not too deep for more. -/
theorem Value.Fits.mono {room room' : Nat} {v : Value} (h : v.Fits room) (hle : room ≤ room') :
    v.Fits room' := by
  induction h generalizing room' with
  | text s => exact .text s
  | nat h => exact .nat h
  | list _ ih =>
    obtain ⟨room', rfl⟩ := Nat.exists_eq_add_of_le' (Nat.le_of_add_left_le hle)
    exact .list fun v hv => ih v hv (Nat.le_of_add_le_add_right hle)
  | object _ ih =>
    obtain ⟨room', rfl⟩ := Nat.exists_eq_add_of_le' (Nat.le_of_add_left_le hle)
    exact .object fun m hm => ih m hm (Nat.le_of_add_le_add_right hle)

mutual

/-- A reader who passes over a value finds no fault in it. -/
theorem Value.skip_source : (v : Value) → v.source.skip = .ok ()
  | .null | .bool _ | .number _ | .text _ => rfl
  | .list items => skipItems_itemSources items
  | .object members => skipMembers_memberSources members

theorem skipItems_itemSources : (items : List Value) →
    skipItems (itemSources items) .closed = .ok ()
  | [] => rfl
  | v :: vs => by
    rw [itemSources, skipItems, v.skip_source]
    exact skipItems_itemSources vs

theorem skipMembers_memberSources : (members : List (String × Value)) →
    skipMembers (memberSources members) .closed = .ok ()
  | [] => rfl
  | (k, v) :: ms => by
    rw [memberSources, skipMembers, v.skip_source]
    exact skipMembers_memberSources ms

end

theorem admitItems_itemSources {room : Nat} {items : List Value}
    (h : ∀ v ∈ items, Source.admit room v.source = .ok ()) :
    admitItems room (itemSources items) .closed = .ok () := by
  induction items with
  | nil => rfl
  | cons v vs ih =>
    obtain ⟨hv, hvs⟩ := List.forall_mem_cons.1 h
    rw [itemSources, admitItems, hv]
    exact ih hvs

theorem admitMembers_memberSources {room : Nat} {members : List (String × Value)}
    (h : ∀ m ∈ members, Source.admit room m.2.source = .ok ()) :
    admitMembers room (memberSources members) .closed = .ok () := by
  induction members with
  | nil => rfl
  | cons m ms ih =>
    obtain ⟨hm, hms⟩ := List.forall_mem_cons.1 h
    rw [memberSources, admitMembers, hm]
    exact ih hms

/-- A reader who keeps a value that is not too deep finds no fault in it. -/
theorem Value.Fits.admit {room : Nat} {v : Value} (h : v.Fits room) :
    Source.admit room v.source = .ok () := by
  induction h with
  | text | nat => rfl
  | list _ ih => exact admitItems_itemSources ih
  | object _ ih => exact admitMembers_memberSources ih

/-! ## Decoders -/

/-- The value may be read here: it is not too deep, or it was measured when it was kept. -/
def Context.Admits (ctx : Context) (v : Value) : Prop := ctx.kept = true ∨ v.Fits ctx.room

/-- The decoder makes `a` of the value, wherever it may be read. -/
def Reads (d : Decoder α) (v : Value) (a : α) : Prop :=
  ∀ ctx : Context, ctx.Admits v → d ctx v.source = .ok a

/-- One level further in, what a list holds may be read. -/
theorem enter_list {ctx : Context} {items : List Value} (h : ctx.Admits (.list items))
    (k : Context → Except Fault α) :
    ∃ ctx', enter ctx k = k ctx' ∧ ∀ v ∈ items, ctx'.Admits v := by
  rw [enter]
  split
  · exact ⟨ctx, rfl, fun _ _ => .inl ‹_›⟩
  · rename_i hkept
    obtain ⟨room, kept⟩ := ctx
    cases h.resolve_left hkept with
    | @list room _ h => exact ⟨_, rfl, fun v hv => .inr (h v hv)⟩

/-- One level further in, what an object holds may be read. -/
theorem enter_object {ctx : Context} {members : List (String × Value)}
    (h : ctx.Admits (.object members)) (k : Context → Except Fault α) :
    ∃ ctx', enter ctx k = k ctx' ∧ ∀ m ∈ members, ctx'.Admits m.2 := by
  rw [enter]
  split
  · exact ⟨ctx, rfl, fun _ _ => .inl ‹_›⟩
  · rename_i hkept
    obtain ⟨room, kept⟩ := ctx
    cases h.resolve_left hkept with
    | @object room _ h => exact ⟨_, rfl, fun m hm => .inr (h m hm)⟩

namespace Reads

variable {d : Decoder α} {v : Value} {a : α}

theorem text (s : String) : Reads Decoder.text (.text s) s := fun _ _ => rfl

theorem below {bound n : Nat} (h : n < bound) : Reads (Decoder.below bound) (.nat n) n :=
  fun _ _ => if_pos h

theorem check (h : Reads d v a) : Reads d.check v () := fun ctx hctx => by
  rw [Decoder.check, h ctx hctx]
  rfl

theorem map (h : Reads d v a) (f : α → β) : Reads (fun ctx s => (d ctx s).map f) v (f a) :=
  fun ctx hctx => by
    dsimp only
    rw [h ctx hctx]
    rfl

theorem filterMap {f : α → Option β} {b : β} (h : Reads d v a) (hf : f a = some b) :
    Reads (Decoder.filterMap d f) v b := fun ctx hctx => by
  simp only [Decoder.filterMap, h ctx hctx, bind, Except.bind, hf]

/-- A value that is not `null` is read in its place. -/
theorem option (h : Reads d v a) (hv : v ≠ .null) : Reads d.option v (some a) := fun ctx hctx => by
  have hsource : v.source ≠ .null := by
    cases v with
    | null => exact absurd rfl hv
    | _ => exact nofun
  rw [Decoder.option, h ctx hctx]
  · rfl
  · exact hsource

/-- The items of a list are read one by one. -/
theorem items {as : List α} {f : α → Value} {ctx : Context}
    (h : ∀ a ∈ as, d ctx (f a).source = .ok a) :
    Decoder.items d ctx (itemSources (as.map f)) .closed = .ok as := by
  induction as with
  | nil => rfl
  | cons a as ih =>
    obtain ⟨ha, has⟩ := List.forall_mem_cons.1 h
    rw [List.map_cons, itemSources, Decoder.items, ha, ih has]
    rfl

theorem list {as : List α} {f : α → Value} (h : ∀ a ∈ as, Reads d (f a) a) :
    Reads (Decoder.list d) (.list (as.map f)) as := fun ctx hctx => by
  obtain ⟨ctx', henter, hitems⟩ := enter_list hctx fun ctx =>
    Decoder.items d ctx (itemSources (as.map f)) .closed
  exact henter.trans (items fun a ha => h a ha ctx' (hitems _ (List.mem_map_of_mem ha)))

theorem oneOf {names : List (String × α)} {name : String} (h : names.lookup name = some a) :
    Reads (oneOf names) (.text name) a := fun ctx _ => by
  simp [Json.oneOf, Value.source, h]

end Reads

/-! ## Records -/

theorem find?_memberSources (name : String) (members : List (String × Value)) :
    Fields.find? name (memberSources members) = (members.lookup name).map Value.source := by
  induction members with
  | nil => rfl
  | cons m ms ih =>
    obtain ⟨k, v⟩ := m
    rw [memberSources, Fields.find?, List.lookup_cons, ih]
    by_cases hk : k = name
    · simp [hk]
    · have hname : (name == k) = false := beq_false_of_ne (Ne.symm hk)
      simp [hk, hname]

theorem mem_of_lookup {name : String} {β : Type} {b : β} {l : List (String × β)}
    (h : l.lookup name = some b) : (name, b) ∈ l := by
  obtain ⟨front, back, rfl, -⟩ := List.lookup_eq_some_iff.1 h
  exact List.mem_append_right _ List.mem_cons_self

/-- Where no name comes twice, every member is found. -/
theorem lookup_of_mem {β : Type} {m : String × β} {l : List (String × β)}
    (hnames : (l.map Prod.fst).Nodup) (h : m ∈ l) : l.lookup m.1 = some m.2 := by
  obtain ⟨front, back, rfl⟩ := List.append_of_mem h
  refine List.lookup_eq_some_iff.2 ⟨front, back, rfl, fun m' hm' => ?_⟩
  rw [List.map_append, List.map_cons, List.nodup_append] at hnames
  have hne := hnames.2.2 m'.1 (List.mem_map_of_mem hm') m.1 List.mem_cons_self
  simpa using Ne.symm hne

/-- The fields find what they look for in the members of an object, and make `a` of it. -/
structure Fields.Accepts (f : Fields α) (members : List (String × Value)) (a : α) : Prop where
  shapes : ∀ name d v, f.known.lookup name = some d → members.lookup name = some v →
    Reads d v ()
  ofMembers : ∀ ctx : Context, (∀ m ∈ members, ctx.Admits m.2) →
    f.ofMembers ctx (memberSources members) = .ok a

namespace Fields.Accepts

variable {members : List (String × Value)} {a : α}

theorem shapes_singleton {name : String} {d : Decoder Unit}
    (h : ∀ v, members.lookup name = some v → Reads d v ()) :
    ∀ name' d' v, [(name, d)].lookup name' = some d' → members.lookup name' = some v →
      Reads d' v () := by
  intro name' d' v hd hv
  rw [List.lookup_cons, List.lookup_nil] at hd
  split at hd
  · rename_i heq
    cases hd
    exact h v (eq_of_beq heq ▸ hv)
  · cases hd

theorem required {name : String} {d : Decoder α} {v : Value} (h : Reads d v a)
    (hmember : members.lookup name = some v) :
    (Fields.required name d).Accepts members a where
  shapes := shapes_singleton fun v' hv' => by
    cases hmember.symm.trans hv'
    exact h.check
  ofMembers ctx hctx := by
    have hread := h ctx (hctx _ (mem_of_lookup hmember))
    simp only [Fields.required, find?_memberSources, hmember, Option.map_some, Option.getD_some,
      hread]

theorem withDefault {name : String} {d : Decoder α} {v : Value} (b : α) (h : Reads d v a)
    (hmember : members.lookup name = some v) :
    (Fields.withDefault name d b).Accepts members a where
  shapes := shapes_singleton fun v' hv' => by
    cases hmember.symm.trans hv'
    exact h.check
  ofMembers ctx hctx := by
    have hread := h ctx (hctx _ (mem_of_lookup hmember))
    simp only [Fields.withDefault, find?_memberSources, hmember, Option.map_some,
      Option.getD_some, hread]

/-- A field that is left out has its default. -/
theorem withDefault_none {name : String} (d : Decoder α) (a : α)
    (hmember : members.lookup name = none) :
    (Fields.withDefault name d a).Accepts members a where
  shapes := shapes_singleton fun v' hv' => by
    rw [hmember] at hv'
    cases hv'
  ofMembers ctx hctx := by
    simp only [Fields.withDefault, find?_memberSources, hmember, Option.map_none,
      Option.getD_none]

theorem pure (a : α) : (Fields.pure a).Accepts members a where
  shapes := nofun
  ofMembers _ _ := rfl

theorem seq {f : Fields (α → β)} {g : Fields α} {h : α → β} (hf : f.Accepts members h)
    (hg : g.Accepts members a) : (f <*> g).Accepts members (h a) where
  shapes name d v hd hv := by
    have hknown : (f <*> g).known = f.known ++ g.known := rfl
    rw [hknown, List.lookup_append, Option.or_eq_some_iff] at hd
    rcases hd with hd | ⟨-, hd⟩
    · exact hf.shapes name d v hd hv
    · exact hg.shapes name d v hd hv
  ofMembers ctx hctx := by
    have hboth : (f <*> g).ofMembers ctx (memberSources members) =
        (f.ofMembers ctx (memberSources members)).bind fun h =>
          (g.ofMembers ctx (memberSources members)).bind fun a => .ok (h a) := rfl
    rw [hboth, hf.ofMembers ctx hctx, hg.ofMembers ctx hctx]
    rfl

theorem map {g : Fields α} (h : α → β) (hg : g.Accepts members a) :
    (h <$> g).Accepts members (h a) :=
  seq (pure h) hg

end Fields.Accepts

/-- The members for a field that is left out when it has its default `b`. -/
inductive LeftOut (name : String) (d : Decoder α) (b : α) : List (String × Value) → α → Prop where
  | absent : LeftOut name d b [] b
  | present {v : Value} {a : α} (h : Reads d v a) : LeftOut name d b [(name, v)] a

namespace LeftOut

variable {name : String} {d : Decoder α} {a b : α} {back : List (String × Value)}

/-- The field is found behind other members, or has its default. -/
theorem accepts (h : LeftOut name d b back a) (front : List (String × Value))
    (hfront : front.lookup name = none) :
    (Fields.withDefault name d b).Accepts (front ++ back) a := by
  have hlookup : (front ++ back).lookup name = back.lookup name := by
    rw [List.lookup_append, hfront, Option.none_or]
  cases h with
  | absent => exact .withDefault_none d _ hlookup
  | present h => exact .withDefault b h (hlookup.trans List.lookup_cons_self)

theorem nodup_names (h : LeftOut name d b back a) (front : List (String × Value))
    (hnames : (front.map Prod.fst ++ [name]).Nodup) : ((front ++ back).map Prod.fst).Nodup := by
  rw [List.map_append]
  cases h with
  | absent => simpa using (List.nodup_append.1 hnames).1
  | present => exact hnames

end LeftOut

/-- All members of an object are passed over or of the right shape, when no name comes twice. -/
theorem scan_memberSources {known : List (String × Decoder Unit)} {ctx : Context}
    {members : List (String × Value)} (hnames : (members.map Prod.fst).Nodup)
    (h : ∀ m ∈ members, ∀ d, known.lookup m.1 = some d → d ctx m.2.source = .ok ())
    {seen : List String} (hseen : ∀ m ∈ members, m.1 ∉ seen) :
    Fields.scan known ctx seen (memberSources members) .closed = .ok () := by
  induction members generalizing seen with
  | nil => rfl
  | cons m ms ih =>
    obtain ⟨k, v⟩ := m
    obtain ⟨hm, hms⟩ := List.forall_mem_cons.1 h
    obtain ⟨hnew, hrest⟩ := List.forall_mem_cons.1 hseen
    obtain ⟨hk, hnames⟩ := List.nodup_cons.1 hnames
    rw [memberSources, Fields.scan]
    cases hd : known.lookup k with
    | none =>
      dsimp only
      rw [v.skip_source]
      exact ih hnames hms hrest
    | some d =>
      have hcontains : seen.contains k = false := by simpa using hnew
      dsimp only
      rw [hcontains, if_neg Bool.false_ne_true, hm d hd]
      refine ih hnames hms fun m hmem => List.not_mem_cons_of_ne_of_not_mem ?_ (hrest m hmem)
      exact ne_of_mem_of_not_mem (List.mem_map_of_mem hmem) hk

/-- A record is read from an object in which its fields find what they look for. -/
theorem Reads.record {f : Fields α} {members : List (String × Value)} {a : α}
    (h : f.Accepts members a) (hnames : (members.map Prod.fst).Nodup) :
    Reads f.decoder (.object members) a := fun ctx hctx => by
  obtain ⟨ctx', henter, hmembers⟩ := enter_object hctx fun ctx =>
    (Fields.scan f.known ctx [] (memberSources members) .closed).bind fun _ =>
      f.ofMembers ctx (memberSources members)
  refine Eq.trans henter ?_
  rw [scan_memberSources hnames (fun m hm d hd => ?_) (fun _ _ => List.not_mem_nil)]
  · exact h.ofMembers ctx' hmembers
  · exact h.shapes m.1 d m.2 hd (lookup_of_mem hnames hm) ctx' (hmembers m hm)

/-! ## Choices -/

theorem Reads.alone (a : α) (members : List (String × Value)) :
    Reads (alone a) (.object members) a := fun _ _ => rfl

/-- Behind the tag, every member is kept. -/
theorem scanTagged_memberSources {tag : String} {known : Source → Except Fault α} {ctx : Context}
    {members : List (String × Value)} (htag : tag ∉ members.map Prod.fst)
    (h : ∀ m ∈ members, m.2.Fits ctx.room) (found : Option α) :
    scanTagged tag known ctx found (memberSources members) .closed = .ok found := by
  induction members with
  | nil => rfl
  | cons m ms ih =>
    obtain ⟨k, v⟩ := m
    obtain ⟨hm, hms⟩ := List.forall_mem_cons.1 h
    rw [List.map_cons, List.mem_cons, not_or] at htag
    rw [memberSources, scanTagged.eq_def]
    dsimp only
    rw [if_neg (Ne.symm htag.1), hm.admit]
    exact ih htag.2 hms

/-- A tag that comes first is found. -/
theorem scanTagged_tag {tag name : String} {known : Source → Except Fault α} {a : α}
    {ctx : Context} {members : List (String × Value)} (hknown : known (.text name) = .ok a)
    (htag : tag ∉ members.map Prod.fst) (h : ∀ m ∈ members, m.2.Fits ctx.room) :
    scanTagged tag known ctx none (memberSources ((tag, .text name) :: members)) .closed =
      .ok (some a) := by
  rw [memberSources, Value.source, scanTagged.eq_def]
  dsimp only
  rw [if_pos rfl, hknown]
  exact scanTagged_memberSources htag h (some a)

theorem filter_memberSources {tag : String} {members : List (String × Value)}
    (htag : tag ∉ members.map Prod.fst) :
    (memberSources members).filter (isNotTag tag) = memberSources members := by
  induction members with
  | nil => rfl
  | cons m ms ih =>
    obtain ⟨k, v⟩ := m
    rw [List.map_cons, List.mem_cons, not_or] at htag
    have hkeep : isNotTag tag (.text k, v.source) = true := by
      simpa [isNotTag] using Ne.symm htag.1
    rw [memberSources, List.filter_cons_of_pos hkeep, ih htag.2]

/-- A choice is read from an object whose first member is the tag. -/
theorem tagged_source {tag name : String} {alternatives : List (String × Decoder α)}
    {d : Decoder α} {members : List (String × Value)} {a : α} {ctx : Context}
    (hkept : ctx.kept = false) (hfits : (Value.object ((tag, .text name) :: members)).Fits ctx.room)
    (hname : alternatives.lookup name = some d) (htag : tag ∉ members.map Prod.fst)
    (h : Reads d (.object members) a) :
    tagged tag alternatives ctx (Value.object ((tag, .text name) :: members)).source = .ok a := by
  obtain ⟨room, kept⟩ := ctx
  cases hkept
  cases hfits with
  | @object room _ hfits =>
    have hmembers := (List.forall_mem_cons.1 hfits).2
    have hfilter : (memberSources ((tag, .text name) :: members)).filter (isNotTag tag) =
        memberSources members := by
      rw [memberSources, List.filter_cons_of_neg (by simp [isNotTag]), filter_memberSources htag]
    have henter : ∀ k : Context → Except Fault α, enter ⟨room + 1, false⟩ k = k ⟨room, false⟩ :=
      fun _ => rfl
    rw [Value.source, tagged]
    dsimp only
    rw [henter, scanTagged_tag (a := d) ?_ htag hmembers]
    · show d ⟨room, true⟩ (.object ((memberSources _).filter (isNotTag tag)) .closed) = _
      rw [hfilter]
      exact h ⟨room, true⟩ (.inl rfl)
    · simp [hname]

/-! ## Texts -/

/-- A text is read when what is to be read of it is. -/
theorem decodeText_compact {d : Decoder α} {v : Value} {a : α} (hfits : v.Fits maxDepth)
    (h : d {} v.source = .ok a) : decodeText d v.compact = .ok a := by
  rw [decodeText, decodeChars, Value.compact, String.toList_ofList, hfits.ofChars]
  show (d {} v.source).bind _ = _
  rw [h]
  rfl

end ChatRelay.Json
