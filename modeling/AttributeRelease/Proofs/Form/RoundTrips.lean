import AttributeRelease.Proofs.Form.Acceptance

/-!
Nothing is lost in texts: values, attributes and text matches come back as they were written, and so do requests
whose metadata hold no doubles and do not nest too deep. The texts stand for the JSON forms of what they were
written for.
-/

namespace AttributeRelease

open Json (Document Ending Key)

section Lists

variable {α β : Type} {write : α → Json} {read : Document → Except FormError β} {f : α → β}

theorem Form.items_ofItems (h : ∀ a, read (.ofJson (write a)) = .ok (f a)) (as : List α) :
    Form.items read (Document.ofItems (as.map write)) = .ok (as.map f) := by
  induction as with
  | nil => rfl
  | cons a rest ih =>
    rw [List.map_cons, Document.ofItems, Form.items, h, ih]
    rfl

theorem Form.list_ofJson (h : ∀ a, read (.ofJson (write a)) = .ok (f a)) (as : List α) :
    Form.list read (.ofJson (.array (as.map write))) = .ok (as.map f) := by
  rw [Document.ofJson, Form.list, Form.items_ofItems h]
  rfl

theorem Json.areWhole_map (h : ∀ a, (write a).IsWhole) (as : List α) : Json.AreWhole (as.map write) := by
  induction as with
  | nil => trivial
  | cons a rest ih => exact ⟨h a, ih⟩

end Lists

/-- A whole text is read as what its document is read as. -/
theorem Form.ofText_toText {α : Type} {read : Document → Except FormError α} {j : Json} {a : α} (hwhole : j.IsWhole)
    (h : read (.ofJson j) = .ok a) : Form.ofText read (Json.readText j.toText) = .ok a := by
  rw [Json.readText_toText hwhole, Form.ofText, h]
  rfl

namespace Value

theorem isWhole_written (v : Value) : v.written.IsWhole := by
  match v with
  | .string s => exact ⟨trivial, trivial, trivial⟩
  | .scoped value scope => exact ⟨trivial, ⟨trivial, trivial, trivial⟩, trivial⟩
  | .bytes data =>
    refine ⟨trivial, Json.areWhole_map (fun b => ?_) data, trivial⟩
    exact Nat.le_trans (Nat.le_of_lt b.toNat_lt) (by decide)
  | .empty => exact ⟨trivial, trivial⟩

theorem natural_byte (b : UInt8) : Form.natural 255 (.ofJson (.ofNat b.toNat)) = .ok b.toNat :=
  if_pos (Nat.le_of_lt_succ b.toNat_lt)

theorem ofContent_bytes (data : List UInt8) :
    ofContent .bytes (.ofJson (.array (data.map fun b => .ofNat b.toNat))) = .ok (.bytes data) := by
  have hbytes : (data.map UInt8.toNat).map UInt8.ofNat = data := by simp [Function.comp_def]
  rw [ofContent, Form.list_ofJson natural_byte]
  exact congrArg (Except.ok ∘ Value.bytes) hbytes

theorem ofNested_of_content (levels : Nat) {kind : ValueKind} {content : Json} {v : Value}
    (h : ofContent kind (.ofJson content) = .ok v) :
    ofNested levels (.ofJson (.object [("type", .string kind.name), ("value", content)])) = .ok v := by
  have hread : ofNested levels (.ofJson (.object [("type", .string kind.name), ("value", content)])) =
      (ofContent kind (.ofJson content)).bind fun v => .ok v := by
    cases kind <;> rfl
  rw [hread, h]
  rfl

/-- A value comes back from its document, under any number of brackets. -/
theorem ofNested_written (levels : Nat) (v : Value) : ofNested levels (.ofJson v.written) = .ok v := by
  match v with
  | .string s => rfl
  | .scoped value scope => rfl
  | .bytes data => exact ofNested_of_content levels (ofContent_bytes data)
  | .empty => rfl

theorem ofText_toText (v : Value) : ofText v.toText = .ok v := Form.ofText_toText v.isWhole_written (ofNested_written 0 v)

end Value

namespace Attribute

theorem isWhole_written (a : Attribute) : a.written.IsWhole :=
  ⟨trivial, Json.areWhole_map Value.isWhole_written a.values, trivial⟩

theorem members_written {values : Document} {vs : List Value} (id : String)
    (h : Form.list (Value.ofNested 2) values = .ok vs) :
    Form.members fields [(.name "id", .string id), (.name "values", values)] {} =
      .ok { id := some id, values := some vs } := by
  have hid : Form.Takes fields {} (.name "id") (.string id) { id := some id } := .read rfl rfl rfl
  have hvalues : Form.Takes fields { id := some id } (.name "values") values { id := some id, values := some vs } :=
    .read rfl rfl (bind_of_ok h _)
  rw [hid.members, hvalues.members]
  rfl

theorem list_written (values : List Value) :
    Form.list (Value.ofNested 2) (.ofJson (.array (values.map Value.written))) = .ok values := by
  rw [Form.list_ofJson (Value.ofNested_written 2), List.map_id']

/-- What lists values is read as the attribute of these values, which may come again. -/
theorem ofDocument_listing (id : String) (values : List Value) :
    ofDocument (.ofJson (.object [("id", .string id), ("values", .array (values.map Value.written))])) =
      .ok (ofValues id values) := by
  have hrecord := Form.record_closed (members_written id (list_written values))
  rw [ofDocument]
  exact (bind_of_ok hrecord _).trans rfl

theorem ofDocument_written (a : Attribute) : ofDocument (.ofJson a.written) = .ok a :=
  (ofDocument_listing a.id a.values).trans (congrArg Except.ok a.ofValues_values)

theorem ofText_toText (a : Attribute) : ofText a.toText = .ok a := Form.ofText_toText a.isWhole_written a.ofDocument_written

end Attribute

namespace TextMatch

theorem ofDocument_written (m : TextMatch) : ofDocument (.ofJson m.written) = .ok m := rfl

theorem ofText_toText (m : TextMatch) : ofText m.toText = .ok m :=
  Form.ofText_toText ⟨trivial, trivial, trivial⟩ m.ofDocument_written

end TextMatch

namespace Request

variable {r : Request} {metadata : List (String × Json)}

/-- A value that comes back out of the metadata of a request: its numbers are integers, the members of its objects
stand in order, as they do in all values that are in use, and it leaves room for the two brackets around it. -/
structure Holds (j : Json) : Prop where
  whole : j.IsWhole
  sorted : j.IsSorted
  nesting : j.nesting + 2 ≤ Json.maxDepth

theorem Holds.members (h : ∀ e ∈ metadata, Holds e.2) : Json.MembersAreWhole metadata ∧
    Json.MembersAreSorted metadata ∧ Json.membersNesting metadata ≤ Json.maxDepth - 2 := by
  induction metadata with
  | nil => exact ⟨trivial, trivial, Nat.zero_le _⟩
  | cons e rest ih =>
    obtain ⟨⟨hwhole, hsorted, hnesting⟩, hrest⟩ := List.forall_mem_cons.1 h
    obtain ⟨hwhole', hsorted', hnesting'⟩ := ih hrest
    exact ⟨⟨hwhole, hwhole'⟩, ⟨hsorted, hsorted'⟩, Nat.max_le.2 ⟨Nat.le_sub_of_add_le hnesting, hnesting'⟩⟩

theorem isWhole_written (h : ∀ e ∈ metadata, Holds e.2) : (r.written metadata).IsWhole := by
  refine ⟨trivial, ?_, ?_, (Holds.members h).1, trivial⟩
  · cases r.requester <;> trivial
  · cases r.issuer <;> trivial

theorem nullable_ofOption (o : Option String) : Form.nullable Form.string (.ofJson (.ofOption .string o)) = .ok o := by
  cases o <;> rfl

theorem members_written {requester issuer metadata : Document} {o o' : Option String} {m : Keyed Json}
    (principal : String) (hrequester : Form.nullable Form.string requester = .ok o)
    (hissuer : Form.nullable Form.string issuer = .ok o') (hmetadata : metadataOf metadata = .ok m) :
    Form.members fields [(.name "principal", .string principal), (.name "requester", requester),
      (.name "issuer", issuer), (.name "metadata", metadata)] {} =
        .ok { principal := some principal, requester := some o, issuer := some o', metadata := some m } := by
  have hfirst : Form.Takes fields {} (.name "principal") (.string principal) { principal := some principal } :=
    .read rfl rfl rfl
  have hsecond : Form.Takes fields { principal := some principal } (.name "requester") requester
      { principal := some principal, requester := some o } := .read rfl rfl (bind_of_ok hrequester _)
  have hthird : Form.Takes fields { principal := some principal, requester := some o } (.name "issuer") issuer
      { principal := some principal, requester := some o, issuer := some o' } :=
    .read rfl rfl (bind_of_ok hissuer _)
  have hlast : Form.Takes fields { principal := some principal, requester := some o, issuer := some o' }
      (.name "metadata") metadata
      { principal := some principal, requester := some o, issuer := some o', metadata := some m } :=
    .read rfl rfl (bind_of_ok hmetadata _)
  rw [hfirst.members, hsecond.members, hthird.members, hlast.members]
  rfl

theorem ofDocument_written (h : ∀ e ∈ metadata, Holds e.2) :
    ofDocument (.ofJson (r.written metadata)) = .ok { r with metadata := Keyed.ofList metadata } := by
  obtain ⟨-, hsorted, hnesting⟩ := Holds.members h
  have hmembers := Document.toMembers_ofMembers metadata (Json.maxDepth - 2) hsorted hnesting
  have hmetadata : metadataOf (.ofJson (.object metadata)) = .ok (Keyed.ofList metadata) := by
    rw [Document.ofJson, metadataOf, hmembers]
    rfl
  have hrecord : Form.record fields {} (.ofJson (r.written metadata)) =
      .ok { principal := some r.principal, requester := some r.requester, issuer := some r.issuer,
            metadata := some (Keyed.ofList metadata) } :=
    Form.record_closed
      (members_written r.principal (nullable_ofOption r.requester) (nullable_ofOption r.issuer) hmetadata)
  rw [ofDocument, hrecord]
  rfl

/-- The same request, in whatever order the metadata stand. -/
structure Same (r r' : Request) : Prop where
  principal : r'.principal = r.principal
  requester : r'.requester = r.requester
  issuer : r'.issuer = r.issuer
  metadata (key : String) : r'.metadata.get? key = r.metadata.get? key

/-- A request comes back from its text with the metadata in the order in which they were written. -/
theorem ofText_toText (horder : metadata.Perm r.metadata.entries) (h : ∀ e ∈ metadata, Holds e.2) :
    ∃ r', ofText (r.toText metadata) = .ok r' ∧ r.Same r' ∧ r'.metadata.entries = metadata := by
  have hentries : (Keyed.ofList metadata).entries = metadata :=
    Keyed.entries_foldl_insert (m := .empty) ((horder.map Prod.fst).nodup_iff.2 r.metadata.keys_nodup)
  have hperm : (Keyed.ofList metadata).entries.Perm r.metadata.entries := by rwa [hentries]
  exact ⟨_, Form.ofText_toText (isWhole_written h) (ofDocument_written h), ⟨rfl, rfl, rfl, Keyed.get?_of_perm hperm⟩,
    hentries⟩

end Request

/-! ### Texts and JSON values -/

section Canonical

variable {α : Type} {write canonical : α → Json} {depth : Nat}

/-- A text stands for the value that its document gives. -/
theorem Json.ofText?_toText {j j' : Json} (hwhole : j.IsWhole)
    (h : (Document.ofJson j).toJson Json.maxDepth = .ok j') : Json.ofText? j.toText = some j' := by
  simp only [Json.ofText?, Json.readText_toText hwhole, h]

theorem Document.toJson_object {ms ms' : List (String × Json)}
    (h : Document.toMembers depth (Document.ofMembers ms) = .ok ms') :
    (Document.ofJson (.object ms)).toJson (depth + 1) = .ok (Json.ofMembers ms') := by
  rw [Document.ofJson, Document.toJson, h]
  rfl

theorem Document.toItems_map (h : ∀ a, (Document.ofJson (write a)).toJson depth = .ok (canonical a)) (as : List α) :
    Document.toItems depth (Document.ofItems (as.map write)) = .ok (as.map canonical) := by
  induction as with
  | nil => rfl
  | cons a rest ih =>
    rw [List.map_cons, Document.ofItems, Document.toItems, h, ih]
    rfl

theorem Document.toJson_array (h : ∀ a, (Document.ofJson (write a)).toJson depth = .ok (canonical a))
    (as : List α) : (Document.ofJson (.array (as.map write))).toJson (depth + 1) = .ok (.array (as.map canonical)) := by
  rw [Document.ofJson, Document.toJson, Document.toItems_map h]
  rfl

theorem Document.toMembers_pair {k k' : String} {j j' v v' : Json} (h : (Document.ofJson j).toJson depth = .ok v)
    (h' : (Document.ofJson j').toJson depth = .ok v') :
    Document.toMembers depth (Document.ofMembers [(k, j), (k', j')]) = .ok [(k, v), (k', v')] := by
  rw [Document.ofMembers, Document.ofMembers, Document.ofMembers, Document.toMembers, h, Document.toMembers, h']
  rfl

theorem Json.ofMembers_pair {k k' : String} (h : k < k') (v v' : Json) :
    Json.ofMembers [(k, v), (k', v')] = .object [(k, v), (k', v')] :=
  Json.ofMembers_of_sorted (by simpa using h)

end Canonical

theorem Value.toJson_written (depth : Nat) (v : Value) :
    (Document.ofJson v.written).toJson (depth + 2) = .ok v.toJson := by
  have hsorted : ∀ kind content : Json,
      Json.ofMembers [("type", kind), ("value", content)] = .object [("type", kind), ("value", content)] :=
    Json.ofMembers_pair (by decide)
  match v with
  | .string s =>
    exact (Document.toJson_object (Document.toMembers_pair rfl rfl)).trans (congrArg Except.ok (hsorted _ _))
  | .scoped value scope =>
    have hlt : "scope" < "value" := by decide
    have hswapped : Json.ofMembers [("value", .string value), ("scope", .string scope)] =
        .object [("scope", .string scope), ("value", .string value)] := by
      simp [Json.ofMembers, Json.insertMember, hlt]
    have hmembers : Document.toMembers depth (Document.ofMembers [("value", .string value), ("scope", .string scope)]) =
        .ok [("value", .string value), ("scope", .string scope)] := Document.toMembers_pair rfl rfl
    have hcontent := Document.toJson_object hmembers
    rw [hswapped] at hcontent
    exact (Document.toJson_object (Document.toMembers_pair rfl hcontent)).trans (congrArg Except.ok (hsorted _ _))
  | .bytes data =>
    have hcontent : (Document.ofJson (.array (data.map fun b => .ofNat b.toNat))).toJson (depth + 1) =
        .ok (.array (data.map fun b => .ofNat b.toNat)) := Document.toJson_array (fun b => rfl) data
    exact (Document.toJson_object (Document.toMembers_pair rfl hcontent)).trans (congrArg Except.ok (hsorted _ _))
  | .empty =>
    have hmembers : Document.toMembers (depth + 1) (Document.ofMembers [("type", .string "empty")]) =
        .ok [("type", .string "empty")] := rfl
    exact Document.toJson_object hmembers

/-- The text of a value stands for its JSON form. -/
theorem Value.ofText?_toText (v : Value) : Json.ofText? v.toText = some v.toJson :=
  Json.ofText?_toText v.isWhole_written (v.toJson_written 125)

/-- The text of an attribute stands for its JSON form. -/
theorem Attribute.ofText?_toText (a : Attribute) : Json.ofText? a.toText = some a.toJson := by
  have hvalues := Document.toJson_array (Value.toJson_written 123) a.values
  refine Json.ofText?_toText a.isWhole_written ?_
  exact (Document.toJson_object (Document.toMembers_pair rfl hvalues)).trans
    (congrArg Except.ok (Json.ofMembers_pair (by decide) _ _))

/-- The text of a text match stands for its JSON form. -/
theorem TextMatch.ofText?_toText (m : TextMatch) : Json.ofText? m.toText = some m.toJson := by
  have hlt : "case_sensitive" < "value" := by decide
  refine Json.ofText?_toText ⟨trivial, trivial, trivial⟩ ?_
  refine (Document.toJson_object (Document.toMembers_pair rfl rfl)).trans (congrArg Except.ok ?_)
  simp [Json.ofMembers, Json.insertMember, hlt, toJson]

theorem Document.toJson_ofOption (depth : Nat) (o : Option String) :
    (Document.ofJson (.ofOption .string o)).toJson depth = .ok (.ofOption .string o) := by
  cases o <;> rfl

/-- The text of a request stands for its JSON form. -/
theorem Request.ofText?_toText {r : Request} (h : ∀ e ∈ r.metadata.entries, Holds e.2) :
    Json.ofText? (r.toText r.metadata.entries) = some r.toJson := by
  obtain ⟨-, hsorted, hnesting⟩ := Holds.members h
  have hmetadata := Document.toJson_object (Document.toMembers_ofMembers r.metadata.entries 125 hsorted hnesting)
  have hmembers : Document.toMembers 126 (Document.ofMembers [("principal", .string r.principal),
      ("requester", .ofOption .string r.requester), ("issuer", .ofOption .string r.issuer),
      ("metadata", .object r.metadata.entries)]) = .ok [("principal", .string r.principal),
        ("requester", .ofOption .string r.requester), ("issuer", .ofOption .string r.issuer),
        ("metadata", Json.ofMembers r.metadata.entries)] := by
    simp only [Document.ofMembers, Document.toMembers, Document.toJson_ofOption, hmetadata]
    rfl
  have hissuer : "issuer" < "principal" := by decide
  have hbehind : ¬ "metadata" < "issuer" := by decide
  have hbefore : "metadata" < "principal" := by decide
  have hlast : ¬ "requester" < "principal" := by decide
  refine Json.ofText?_toText (isWhole_written h) ((Document.toJson_object hmembers).trans (congrArg Except.ok ?_))
  simp [Json.ofMembers, Json.insertMember, hissuer, hbehind, hbefore, hlast, toJson]

/-- Texts lose nothing, and what else is accepted means what it says. -/
theorem texts_lose_nothing :
    (∀ v : Value, Value.ofText v.toText = .ok v) ∧
    (∀ a : Attribute, Attribute.ofText a.toText = .ok a) ∧
    (∀ m : TextMatch, TextMatch.ofText m.toText = .ok m) ∧
    (∀ (r : Request) metadata, metadata.Perm r.metadata.entries →
      (∀ e ∈ r.metadata.entries, Request.Holds e.2) →
        ∃ r', Request.ofText (r.toText metadata) = .ok r' ∧ r.Same r' ∧ (metadata = r.metadata.entries → r' = r)) ∧
    (∀ text a, Attribute.ofText text = .ok a → a.values.Nodup ∧
      ∃ vs, Attribute.Lists (Json.readText text).document vs ∧ a.values = vs.eraseDups) ∧
    ∀ text (entries : List (String × Document)) value caseSensitive ignoreCase,
      Json.readText text = ⟨.object (entries.map fun e => (.name e.1, e.2)) .closed, false⟩ →
      (entries.map Prod.fst).Nodup → entries.lookup "value" = some (.string value) →
      TextMatch.Flag entries "case_sensitive" caseSensitive → TextMatch.Flag entries "ignore_case" ignoreCase →
        ((∃ m, TextMatch.ofText text = .ok m) ↔ ¬ TextMatch.Contradict caseSensitive ignoreCase) ∧
        ∀ m, TextMatch.ofText text = .ok m → m = ⟨value, caseSensitive.getD ((ignoreCase.map (!·)).getD true)⟩ := by
  refine ⟨Value.ofText_toText, Attribute.ofText_toText, TextMatch.ofText_toText, ?_, ?_, ?_⟩
  · intro r metadata horder hholds
    obtain ⟨r', hread, hsame, hentries⟩ := Request.ofText_toText horder fun e he => hholds e (horder.subset he)
    refine ⟨r', hread, hsame, fun heq => ?_⟩
    have hmetadata : r'.metadata = r.metadata := Keyed.ext_entries (hentries.trans heq)
    obtain ⟨principal, requester, issuer, kept⟩ := r'
    obtain ⟨rfl, rfl, rfl, -⟩ := hsame
    obtain rfl : kept = r.metadata := hmetadata
    rfl
  · intro text a ha
    exact ⟨a.values_nodup, Attribute.values_of_ofDocument (Form.of_ofText ha)⟩
  · intro text entries value caseSensitive ignoreCase hread hkeys hvalue hsensitive hignore
    have hskips : ∀ e ∈ entries, e.2.skip = .ok () := fun e he =>
      Json.skip_of_readText hread _ (List.mem_map_of_mem he)
    have hdocument := TextMatch.ofDocument_object hkeys hskips hvalue hsensitive hignore
    have htext : TextMatch.ofText text = TextMatch.ofFlags value caseSensitive ignoreCase := by
      rw [TextMatch.ofText, hread, Form.ofText, hdocument]
      exact bind_pure _
    rw [htext]
    rcases TextMatch.ofFlags_cases value caseSensitive ignoreCase with ⟨hcontradict, e, he⟩ | ⟨hagree, hok⟩
    · rw [he]
      exact ⟨⟨nofun, fun h => absurd hcontradict h⟩, nofun⟩
    · rw [hok]
      exact ⟨⟨fun _ => hagree, fun _ => ⟨_, rfl⟩⟩, fun m hm => (Except.ok.inj hm).symm⟩

/-! A request with nested metadata, a text match that only says what is ignored, and one that contradicts itself. -/

namespace Kept

def request : Request where
  principal := "alice"
  issuer := some "https://idp.example.org"
  metadata := .ofList [("depth", .array [.number (.negative 1), .array []]), ("a\nb", .object [("x", .null)])]

def ignoring : List (String × Json) := [("ignore_case", .bool true), ("value", .string "Staff"), ("more", .array [])]

def contradictory : List (String × Json) :=
  [("value", .string "Staff"), ("case_sensitive", .bool true), ("ignore_case", .bool true)]

theorem holds : ∀ e ∈ request.metadata.entries, Request.Holds e.2 := by
  have hentries : request.metadata.entries =
      [("depth", .array [.number (.negative 1), .array []]), ("a\nb", .object [("x", .null)])] := rfl
  rw [hentries]
  intro e he
  rcases List.mem_cons.1 he with rfl | he
  · exact ⟨⟨⟨by decide, by decide⟩, trivial, trivial⟩, ⟨trivial, trivial, trivial⟩, by decide⟩
  · cases List.mem_singleton.1 he
    exact ⟨⟨trivial, trivial⟩, ⟨List.pairwise_singleton _ _, trivial, trivial⟩, by decide⟩

theorem texts_lose_nothing_of_kept :
    Request.ofText (request.toText request.metadata.entries) = .ok request ∧
      (∀ m, TextMatch.ofText (Json.object ignoring).toText = .ok m → m = ⟨"Staff", false⟩) ∧
      (∃ m, TextMatch.ofText (Json.object ignoring).toText = .ok m) ∧
      ¬ ∃ m, TextMatch.ofText (Json.object contradictory).toText = .ok m := by
  obtain ⟨-, -, -, hrequest, -, hmatch⟩ := texts_lose_nothing
  obtain ⟨r', hread, -, hsame⟩ := hrequest request request.metadata.entries (.refl _) holds
  obtain ⟨haccepted, hmeans⟩ := hmatch (Json.object ignoring).toText
    [("ignore_case", .bool true), ("value", .string "Staff"), ("more", .array [] .closed)] "Staff" none (some true)
    (Json.readText_toText ⟨trivial, trivial, trivial, trivial⟩) (by decide) rfl (.missing rfl) (.bool rfl)
  obtain ⟨hrefused, -⟩ := hmatch (Json.object contradictory).toText
    [("value", .string "Staff"), ("case_sensitive", .bool true), ("ignore_case", .bool true)] "Staff" (some true)
    (some true) (Json.readText_toText ⟨trivial, trivial, trivial, trivial⟩) (by decide) rfl (.bool rfl) (.bool rfl)
  refine ⟨?_, hmeans, haccepted.2 nofun, fun hm => hrefused.1 hm ⟨true, rfl, rfl⟩⟩
  rw [hread, hsame rfl]

end Kept

end AttributeRelease
