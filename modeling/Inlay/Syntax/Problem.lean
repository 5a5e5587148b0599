/-! # What can be wrong with a source text

    Every fault that reading a program can meet, and the one place that words it. -/

namespace Inlay.Syntax

inductive Problem where
  /- the text ends or goes on where it must not -/
  | eof
  | expected (what got : String)
  | unexpected (got expected : String)
  | expectedSemicolon
  | expectedStatementEnd
  | expectedIdent
  | identifierExpected
  | expressionExpected
  /- characters, numbers, strings -/
  | unexpectedChar (c : Char)
  | conflictMarker
  | unterminatedComment
  | unterminatedString
  | unterminatedRegex
  | unicodeEscapeExpected
  | badEscape (expected : String)
  | invalidStringEscape
  | invalidIdentChar
  | identAfterNumber
  | exponentExpected
  | digitExpected (radix : Nat)
  | loneSeparator
  | legacyOctal
  | legacyDecimal
  | legacyOctalLiteral
  | legacyComment
  | escapeInReserved (word : String)
  | unknownRegexFlags
  | duplicateRegexFlag (flag : Char)
  | hashSpace
  /- names -/
  | strictIdent (name : String)
  | awaitIdent
  | strictBinding
  | argumentsInField
  | reservedImport
  | reservedShorthand
  | invalidClassName
  | invalidInterfaceName
  /- statements -/
  | declarationNotAllowed
  | returnNotAllowed
  | continueTarget
  | continueLabel
  | breakOutside
  | breakTarget
  | duplicateLabel (label : String)
  | labelledAsync
  | labelledStrict
  | throwLineBreak
  | multipleDefault
  | withInStrict
  | withTyped
  | patternWithoutInit
  | constWithoutInit
  | emptyDeclaration
  | manyLoopBindings
  | loopInitializer
  | awaitLoop
  | asyncLoop
  | patternLoop
  | strictDirective
  | usingNotEnabled
  | usingNotAllowed
  | usingInForIn
  | usingName
  | usingInit
  | moduleOnly
  | exportNotAllowed
  | exportFrom (name : String)
  | decoratorsAfterExport
  | typeInTypeImport
  | typeInTypeExport
  | exportStringBinding
  | importStringBinding (name : String)
  /- expressions -/
  | invalidTarget
  | assignTarget
  | cannotAssign
  | notPattern
  | unaryPower
  | invalidSuper
  | invalidSuperCall
  | optionalSuperCall
  | invalidNewTarget
  | arrowNotAllowed
  | arrowLineBreak
  | emptyParens
  | spreadInParens
  | propertyAssign
  | commaInKey
  | commaAfterRest
  | trailingComma
  | dotsWithoutName
  | restNotLast
  | importTrailingComma
  | chainedConstructor
  | taggedChain
  | awaitStar
  | awaitInFunction
  | awaitParameter
  | yieldParameter
  | nullishMix
  | deleteIdent
  | deleteOperand
  | setterParameter
  | setterRest
  | getterParameter
  /- classes -/
  | duplicateConstructor
  | asyncConstructor
  | generatorConstructor
  | constructorAccessor
  | constructorField
  | privateConstructor
  | classExtendsTwice
  | implementsTwice
  | extendsAfterImplements
  | manySuperclasses
  | modifierHere
  | asyncHere
  | declareMember
  | typeParamModifier (word : String)
  | varianceModifier (word : String)
  | constModifier (word : String)
  | constructorModifier (word : String)
  | constructorTypeParams
  | abstractBody
  | abstractValue
  | parameterProperty
  | parameterPropertyPattern
  | ambientImplementation
  | accessPrivate
  | privateModifier (word : String)
  | modifierOrder (first second : String)
  | modifierRepeated (word : String)
  | modifierWith (first second : String)
  | overrideOutside
  | readonlyMethod
  | readonlyAccessor
  | constructorReturn
  /- types -/
  | optionalWithInit
  | requiredAfterOptional
  | optionalPattern
  | restOptional
  | restInit
  | restLast
  | heritageName
  | emptyTypeParams
  | emptyTypeArgs
  | indexSignatureParams
  | privateSignature
  | importTypeLiteral
  | computedEnumName
  | numericEnumName
  | objectOptional
  | loopTyped
  | optionalArrow
  /- markup -/
  | jsxIdentifierExpected (got : String)
  | emptyJsxAttr
  | invalidJsxValue
  | jsxClosing (name : String)
  | jsxFragmentClosing
  | strayMarkup (first second : String)
  deriving DecidableEq

namespace Problem

/-- A character between single quotes, with the usual escapes. -/
def quoteChar (c : Char) : String :=
  if c == '\'' then "'\\''"
  else if c == '\\' then "'\\\\'"
  else if c == '\n' then "'\\n'"
  else if c == '\r' then "'\\r'"
  else if c == '\t' then "'\\t'"
  else if c.toNat == 0 then "'\\0'"
  else if c.toNat < 32 || c.toNat == 127 then
    "'\\u\x7b" ++ String.ofList (Nat.toDigits 16 c.toNat) ++ "\x7d'"
  else "'" ++ c.toString ++ "'"

def message : Problem → String
  | eof => "Unexpected eof"
  | expected what got => "Expected '" ++ what ++ "', got '" ++ got ++ "'"
  | unexpected got wanted => "Unexpected token `" ++ got ++ "`. Expected " ++ wanted
  | expectedSemicolon => "Expected a semicolon"
  | expectedStatementEnd => "Expected ';', '\x7d' or <eof>"
  | expectedIdent => "Expected ident"
  | identifierExpected => "Expected an identifier"
  | expressionExpected => "Expression expected"
  | unexpectedChar c => "Unexpected character " ++ quoteChar c
  | conflictMarker => "Merge conflict marker encountered."
  | unterminatedComment => "Unterminated block comment"
  | unterminatedString => "Unterminated string constant"
  | unterminatedRegex => "Unterminated regexp literal"
  | unicodeEscapeExpected => "Expected unicode escape"
  | badEscape wanted => "Bad character escape sequence, expected " ++ wanted
  | invalidStringEscape => "Invalid string escape"
  | invalidIdentChar => "Invalid character in identifier"
  | identAfterNumber => "Identifier cannot follow number"
  | exponentExpected => "Expected +, - or decimal digit after e"
  | digitExpected 2 => "Expected a binary digit"
  | digitExpected 8 => "Expected an octal digit"
  | digitExpected 10 => "Expected a decimal digit"
  | digitExpected _ => "Expected a hexadecimal digit"
  | loneSeparator => "A numeric separator is only allowed between two digits"
  | legacyOctal => "Legacy octal escape is not permitted in strict mode"
  | legacyDecimal => "Legacy decimal escape is not permitted in strict mode"
  | legacyOctalLiteral =>
      "Legacy octal literals are not available when targeting ECMAScript 5 and higher"
  | legacyComment => "Legacy comments cannot be used in module code"
  | escapeInReserved word => "Unexpected escape sequence in reserved word: " ++ word
  | unknownRegexFlags => "Unknown regular expression flags."
  | duplicateRegexFlag flag => "Duplicated regular expression flag '" ++ flag.toString ++ "'."
  | hashSpace => "Unexpected space between # and identifier"
  | strictIdent name => "`" ++ name ++ "` cannot be used as an identifier in strict mode"
  | awaitIdent => "`await` cannot be used as an identifier in an async context"
  | strictBinding =>
      "'eval' and 'arguments' cannot be used as a binding identifier in strict mode"
  | argumentsInField => "'arguments' is only allowed in functions and class methods"
  | reservedImport => "cannot import as reserved word"
  | reservedShorthand => "Cannot use a reserved word as a shorthand property"
  | invalidClassName => "Invalid class name"
  | invalidInterfaceName => "interface name is invalid"
  | declarationNotAllowed => "Declaration is not allowed"
  | returnNotAllowed => "Return statement is not allowed here"
  | continueTarget =>
      "A 'continue' statement can only jump to a label of an enclosing iteration statement"
  | continueLabel => "Jump target cannot cross function boundary"
  | breakOutside =>
      "A 'break' statement can only be used within an enclosing iteration or switch statement"
  | breakTarget => "A 'break' statement can only jump to a label of an enclosing statement"
  | duplicateLabel label => "Label " ++ label ++ " is already declared"
  | labelledAsync => "Generator or async function cannot be labelled"
  | labelledStrict => "Function cannot be labelled in strict mode"
  | throwLineBreak => "LineBreak cannot follow 'throw'"
  | multipleDefault => "A switch block cannot have multiple defaults"
  | withTyped =>
      "The 'with' statement is not supported. All symbols in a 'with' block will have type 'any'."
  | withInStrict => "With statement are not allowed in strict mode"
  | patternWithoutInit => "Destructuring bindings require initializers"
  | constWithoutInit => "'const' declarations must be initialized"
  | emptyDeclaration => "Variable declaration list cannot be empty"
  | manyLoopBindings => "Expected one variable binding"
  | loopInitializer => "Unexpected initializer in for in/of loop"
  | awaitLoop => "for await syntax is valid only for for-of statement"
  | asyncLoop => "The left-hand side of a `for...of` statement may not be `async`"
  | patternLoop =>
      "The left-hand side of a 'for...in' statement cannot be a destructuring pattern"
  | strictDirective =>
      "Illegal 'use strict' directive in function with non-simple parameter list."
  | usingNotEnabled =>
      "Using declaration is not enabled. Set jsc.parser.explicitResourceManagement to true"
  | usingNotAllowed => "Using declaration is not allowed"
  | usingInForIn => "Using declaration is not allowed in for-in loop"
  | usingName => "Using declaration only allows identifiers"
  | usingInit => "Using declaration requires initializer"
  | moduleOnly => "'import', and 'export' cannot be used outside of module code"
  | exportNotAllowed => "`export` is not allowed here"
  | exportFrom name => "`" ++ name ++ "` cannot be used without `from` clause"
  | decoratorsAfterExport =>
      "Decorators may not appear after `export` or `export default` if they also appear before "
       ++ "`export`."
  | typeInTypeImport =>
      "The 'type' modifier cannot be used on a named import when 'import type' is used on its "
       ++ "import statement."
  | typeInTypeExport =>
      "The 'type' modifier cannot be used on a named export when 'export type' is used on its "
       ++ "export statement."
  | exportStringBinding =>
      "A string literal cannot be used as an exported binding without `from`."
  | importStringBinding name =>
      "A string literal cannot be used as an imported binding.\n- Did you mean `import \x7b \"" ++
        name ++ "\" as foo \x7d`?"
  | invalidTarget =>
      "The left-hand side of an assignment expression must be a variable or a property access."
  | assignTarget => "Invalid assignment target"
  | cannotAssign => "Cannot assign to this"
  | notPattern => "Not a pattern"
  | unaryPower => "'**' cannot be applied to unary/await expression."
  | invalidSuper => "Invalid access to super"
  | invalidSuperCall => "Invalid `super()`"
  | optionalSuperCall => "Super call cannot be optional"
  | invalidNewTarget =>
      "'new.target' is only allowed in the body of a function declaration, function expression, "
       ++ "or class."
  | arrowNotAllowed => "An arrow function is not allowed here"
  | arrowLineBreak => "Unexpected line break between arrow head and arrow"
  | emptyParens => "Parenthesized expression cannot be empty"
  | spreadInParens => "Parenthesized expression cannot contain spread operator"
  | propertyAssign => "assignment property is invalid syntax"
  | commaInKey => "A comma expression is not allowed in a computed property name"
  | commaAfterRest => "Trailing comma isn't permitted after a rest element"
  | trailingComma => "Trailing comma is not allowed"
  | dotsWithoutName =>
      "`...` must be followed by an identifier in declaration contexts"
  | restNotLast => "Rest element must be final element"
  | importTrailingComma => "Trailing comma is disallowed inside import(...) arguments"
  | chainedConstructor => "Constructor in/after an optional chaining is not allowed."
  | taggedChain => "Tagged template literal is not allowed in optional chain."
  | awaitStar =>
      "await* has been removed from the async functions proposal. Use Promise.all() instead."
  | awaitInFunction => "await isn't allowed in non-async function"
  | awaitParameter => "`await` expressions cannot be used in a parameter initializer."
  | yieldParameter => "'yield' cannot be used as a parameter within generator"
  | nullishMix =>
      "Nullish coalescing operator(??) requires parens when mixing with logical operators"
  | deleteIdent => "'delete' cannot be called on an identifier in strict mode"
  | deleteOperand => "The operand of a delete operator must be a property reference."
  | setterParameter => "A `set` accessor must have exactly one parameter"
  | setterRest => "Rest pattern is not allowed in setter"
  | getterParameter => "A `get` accessor cannot have parameters"
  | duplicateConstructor => "A class can only have one constructor"
  | asyncConstructor => "Constructor can't be an async function"
  | generatorConstructor => "Constructor can't be a generator"
  | constructorAccessor => "Class constructor can't be an accessor."
  | constructorField => "Classes may not have a non-static field named 'constructor'"
  | privateConstructor => "Classes can't have a private field named '#constructor'."
  | classExtendsTwice => "`extends` clause already seen."
  | implementsTwice => "`implements` clause already seen"
  | extendsAfterImplements => "'extends' clause must precede 'implements' clause."
  | manySuperclasses => "Classes can only extend a single class"
  | modifierHere => "Modifiers cannot appear here"
  | asyncHere => "`async` modifier cannot be used here"
  | declareMember => "`declare` modifier cannot appear on class elements of this kind"
  | typeParamModifier word => "'" ++ word ++ "' modifier cannot appear on a type parameter"
  | varianceModifier word =>
      "'" ++ word ++ "' modifier can only appear on a type parameter of a class, interface or "
       ++ "type alias"
  | constModifier word =>
      "'" ++ word ++ "' modifier can only appear on a type parameter of a function, method or "
       ++ "class"
  | constructorModifier word =>
      "'" ++ word ++ "' modifier cannot appear on a constructor declaration"
  | constructorTypeParams => "Type parameters cannot appear on a constructor declaration"
  | abstractBody => "Abstract method cannot have an implementation."
  | abstractValue => "Abstract property cannot have an initializer."
  | parameterProperty => "A parameter property is only allowed in a constructor implementation"
  | parameterPropertyPattern =>
      "Typescript parameter property must be an identifier or assignment pattern"
  | ambientImplementation => "An implementation cannot be declared in ambient contexts"
  | accessPrivate => "An accessibility modifier cannot be used with a private identifier."
  | privateModifier word =>
      "'" ++ word ++ "' modifier cannot be used with a private identifier"
  | modifierOrder first second =>
      "'" ++ first ++ "' modifier must precede '" ++ second ++ "' modifier."
  | modifierRepeated word => "'" ++ word ++ "' modifier already seen."
  | modifierWith first second =>
      "'" ++ first ++ "' modifier cannot be used with '" ++ second ++ "' modifier."
  | overrideOutside =>
      "This member cannot have an 'override' modifier because its containing class does not "
       ++ "extend another class."
  | readonlyMethod => "A method cannot be readonly"
  | readonlyAccessor => "A getter or a setter cannot be readonly"
  | constructorReturn => "Type annotation cannot appear on a constructor declaration"
  | optionalWithInit => "Parameter cannot have question mark and initializer"
  | requiredAfterOptional => "A required element cannot follow an optional element."
  | optionalPattern =>
      "A binding pattern parameter cannot be optional in an implementation signature."
  | restOptional => "A rest parameter cannot be optional"
  | restInit => "A rest parameter cannot have an initializer"
  | restLast => "A rest parameter must be last in a parameter list"
  | heritageName =>
      "An interface can only extend an identifier/qualified-name with optional type arguments."
  | emptyTypeParams => "Type parameter list cannot be empty"
  | emptyTypeArgs => "Type argument list cannot be empty."
  | indexSignatureParams => "An index signature must have exactly one parameter"
  | privateSignature => "private names are not allowed in interface"
  | importTypeLiteral => "literal in an import type should be string literal"
  | computedEnumName => "Computed property names are not allowed in enums"
  | numericEnumName => "An enum member cannot have a numeric name"
  | objectOptional => "An object member cannot be declared optional"
  | loopTyped =>
      "The left-hand side of a 'for...of' statement cannot use a type annotation"
  | optionalArrow => "A parameter initializer is only allowed in a function or constructor "
      ++ "implementation"
  | jsxIdentifierExpected got => "Unexpected token `" ++ got ++ "`. Expected jsx identifier"
  | emptyJsxAttr => "JSX attributes must only be assigned a non-empty expression"
  | invalidJsxValue => "JSX value should be either an expression or a quoted JSX text"
  | jsxClosing name => "Expected corresponding JSX closing tag for <" ++ name ++ ">"
  | jsxFragmentClosing => "Expected corresponding JSX closing tag for <>"
  | strayMarkup first second =>
      "Unexpected token. Did you mean " ++ first ++ " or " ++ second ++ "?"

end Problem

end Inlay.Syntax
