/-!
# Node kinds of a dump

The kinds of node that the compiler's dumps may hold.  A dump with any other kind comes from a
compiler that is not known, and is refused.
-/

namespace CppSurface.Dump

/-- The known kinds, in alphabetical order. -/
def knownKinds : List String :=
  ["AbiTagAttr", "AccessSpecDecl", "AliasAttr", "AlignValueAttr", "AlignedAttr",
   "AllocAlignAttr", "AllocSizeAttr", "AlwaysInlineAttr", "ArrayInitIndexExpr",
   "ArrayInitLoopExpr", "ArraySubscriptExpr", "ArrayTypeTraitExpr", "AsmLabelAttr",
   "AtomicExpr", "AtomicType", "AttributedStmt", "AttributedType", "AutoType",
   "AvailabilityAttr", "AvailableOnlyInDefaultEvalMethodAttr", "BinaryConditionalOperator",
   "BinaryOperator", "BindingDecl", "BlockCommandComment", "BlockPointerType", "BreakStmt",
   "BuiltinAttr", "BuiltinBitCastExpr", "BuiltinTemplateDecl", "BuiltinType", "CStyleCastExpr",
   "CXX11NoReturnAttr", "CXXBindTemporaryExpr", "CXXBoolLiteralExpr", "CXXCatchStmt",
   "CXXConstCastExpr", "CXXConstructExpr", "CXXConstructorDecl", "CXXConversionDecl",
   "CXXCtorInitializer", "CXXDeductionGuideDecl", "CXXDefaultArgExpr", "CXXDefaultInitExpr",
   "CXXDeleteExpr", "CXXDependentScopeMemberExpr", "CXXDestructorDecl", "CXXDynamicCastExpr",
   "CXXFoldExpr", "CXXForRangeStmt", "CXXFunctionalCastExpr", "CXXInheritedCtorInitExpr",
   "CXXMemberCallExpr", "CXXMethodDecl", "CXXNewExpr", "CXXNoexceptExpr",
   "CXXNullPtrLiteralExpr", "CXXOperatorCallExpr", "CXXPseudoDestructorExpr", "CXXRecordDecl",
   "CXXReinterpretCastExpr", "CXXRewrittenBinaryOperator", "CXXScalarValueInitExpr",
   "CXXStaticCastExpr", "CXXTemporaryObjectExpr", "CXXThisExpr", "CXXThrowExpr", "CXXTryStmt",
   "CXXTypeidExpr", "CXXUnresolvedConstructExpr", "CallExpr", "CallbackAttr", "CaseStmt",
   "CharacterLiteral", "ClassScopeFunctionSpecializationDecl", "ClassTemplateDecl",
   "ClassTemplatePartialSpecializationDecl", "ClassTemplateSpecializationDecl", "ColdAttr",
   "ComplexType", "CompoundAssignOperator", "CompoundLiteralExpr", "CompoundRequirement",
   "CompoundStmt", "ConceptDecl", "ConceptSpecializationExpr", "ConditionalOperator",
   "ConstAttr", "ConstantArrayType", "ConstantExpr", "ConstructorUsingShadowDecl",
   "ContinueStmt", "ConvertVectorExpr", "DLLImportAttr", "DecayedType", "Decl", "DeclRefExpr",
   "DeclStmt", "DecltypeType", "DecompositionDecl", "DefaultStmt", "DependentNameType",
   "DependentScopeDeclRefExpr", "DependentSizedArrayType",
   "DependentTemplateSpecializationType", "DeprecatedAttr", "DesignatedInitExpr",
   "DiagnoseIfAttr", "DisableTailCallsAttr", "DoStmt", "ElaboratedType", "EmptyDecl",
   "EnableIfAttr", "EnumConstantDecl", "EnumDecl", "EnumType",
   "ExcludeFromExplicitInstantiationAttr", "ExprWithCleanups", "FallThroughAttr", "FieldDecl",
   "FileScopeAsmDecl", "FinalAttr", "FloatingLiteral", "ForStmt", "FormatArgAttr",
   "FormatAttr", "FriendDecl", "FullComment", "FunctionDecl", "FunctionProtoType",
   "FunctionTemplateDecl", "GCCAsmStmt", "GNUInlineAttr", "GNUNullExpr", "GotoStmt",
   "HTMLEndTagComment", "HTMLStartTagComment", "IfStmt", "ImplicitCastExpr",
   "ImplicitConceptSpecializationDecl", "ImplicitValueInitExpr", "IncompleteArrayType",
   "IndirectFieldDecl", "IndirectGotoStmt", "InitListExpr", "InjectedClassNameType",
   "InlineCommandComment", "IntegerLiteral", "InternalLinkageAttr", "LValueReferenceType",
   "LabelStmt", "LambdaExpr", "LifetimeBoundAttr", "LikelyAttr", "LinkageSpecDecl",
   "MSAllocatorAttr", "MSConstexprAttr", "MSNoVTableAttr", "MSVtorDispAttr",
   "MaterializeTemporaryExpr", "MaxFieldAlignmentAttr", "MayAliasAttr", "MemberExpr",
   "MemberPointerType", "MinVectorWidthAttr", "ModeAttr", "NamespaceAliasDecl",
   "NamespaceDecl", "NestedRequirement", "NoAliasAttr", "NoDebugAttr", "NoEscapeAttr",
   "NoInlineAttr", "NoSanitizeAttr", "NoThrowAttr", "NoUniqueAddressAttr", "NonNullAttr",
   "NonTypeTemplateParmDecl", "NullStmt", "OffsetOfExpr", "OpaqueValueExpr", "OverrideAttr",
   "OwnerAttr", "PackExpansionExpr", "PackExpansionType", "PackedAttr", "ParagraphComment",
   "ParamCommandComment", "ParenExpr", "ParenListExpr", "ParenType", "ParmVarDecl",
   "PointerAttr", "PointerType", "PragmaCommentDecl", "PragmaDetectMismatchDecl",
   "PredefinedExpr", "PreferredNameAttr", "PureAttr", "QualType", "RValueReferenceType",
   "RecordDecl", "RecordType", "RecoveryExpr", "RequiresExpr", "RestrictAttr", "ReturnStmt",
   "ReturnsNonNullAttr", "ReturnsTwiceAttr", "SelectAnyAttr", "ShuffleVectorExpr",
   "SimpleRequirement", "SizeOfPackExpr", "SourceLocExpr", "StandaloneDebugAttr",
   "StaticAssertDecl", "StmtExpr", "StringLiteral", "SubstNonTypeTemplateParmExpr",
   "SubstTemplateTypeParmPackType", "SubstTemplateTypeParmType", "SwiftAttrAttr", "SwitchStmt",
   "TParamCommandComment", "TargetAttr", "TemplateArgument", "TemplateSpecializationType",
   "TemplateTemplateParmDecl", "TemplateTypeParmDecl", "TemplateTypeParmType", "TextComment",
   "TranslationUnitDecl", "TypeAliasDecl", "TypeAliasTemplateDecl", "TypeNullableAttr",
   "TypeOfExprType", "TypeRequirement", "TypeTraitExpr", "TypeVisibilityAttr", "TypedefDecl",
   "TypedefType", "UnaryExprOrTypeTraitExpr", "UnaryOperator", "UnaryTransformType",
   "UnavailableAttr", "UnlikelyAttr", "UnresolvedLookupExpr", "UnresolvedMemberExpr",
   "UnresolvedUsingIfExistsDecl", "UnresolvedUsingType", "UnresolvedUsingTypenameDecl",
   "UnresolvedUsingValueDecl", "UnusedAttr", "UserDefinedLiteral", "UsingDecl",
   "UsingDirectiveDecl", "UsingEnumDecl", "UsingIfExistsAttr", "UsingShadowDecl", "UsingType",
   "VTablePointerAuthenticationAttr", "VarDecl", "VarTemplateDecl",
   "VarTemplatePartialSpecializationDecl", "VarTemplateSpecializationDecl", "VectorType",
   "VerbatimBlockComment", "VerbatimBlockLineComment", "VerbatimLineComment", "VisibilityAttr",
   "WarnUnusedResultAttr", "WeakAttr", "WeakImportAttr", "WeakRefAttr", "WhileStmt"]

end CppSurface.Dump
