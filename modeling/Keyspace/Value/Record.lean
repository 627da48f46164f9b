import Keyspace.Value.Tagged

/-! # Configurations and locations from any values

    A configuration may be described by a dictionary, and a location is built
    from arguments, of which only the bucket must be there. Of what they hold
    only the options and the key are checked.
-/

namespace Keyspace

/-- The configuration that a dictionary describes. Its endpoint is taken as
    text, and its options, which must be a dictionary, are copied. The options
    are looked at first. -/
def Config.ofValue (data : Value) : Except Misuse (Config Value) :=
  match data.entries? with
  | none => .error (.noAttribute data.typeName "get")
  | some entries =>
    match ((Entries.get? entries "options").getD .emptyDict).entries? with
    | none => .error .optionsNotDict
    | some options =>
      ((Entries.get? entries "endpoint").getD (.text "")).plain.map fun endpoint =>
        { endpoint := .text endpoint, options := .dict none options }

namespace Location

/-- The location of a bucket, which must be given, and a key, to which a
    separator can be appended. Whether both can be told counts before what the
    key is. -/
def ofArguments (bucket key : Option Value) : Except Misuse (Location Value) :=
  match bucket, key.getD (.text "") with
  | none, _ => .error (.missingArgument "ObjectLocation.__init__" "bucket")
  | some b, .text k => .ok ⟨b, k⟩
  | some b, k =>
    if b.isEndless || k.isEndless then .error (.endless .telling)
    else
      match k with
      | .list _ _ => .error .listExtendedByText
      | k => .error (.notExtendable k.typeName)

/-- The location of texts as one of values. -/
def ofTexts (l : Location String) : Location Value := ⟨.text l.bucket, l.key⟩

end Location

end Keyspace
