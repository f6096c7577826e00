/-!
The types that hook text can name without further imports: the primitive types of C and
Objective-C, and the classes and protocols of the Foundation framework.
-/
namespace LogosHooks.DeclaredType

def primitiveNames : List String :=
  ["id", "void", "char", "int", "unsigned", "double", "float", "long", "bool", "BOOL"]

def foundationNames : List String := [
  "NSObject", "NSAffineTransform", "NSAppleEventDescriptor", "NSAppleEventManager",
  "NSAppleScript", "NSArchiver", "NSArray", "NSAssertionHandler", "NSAttributedString",
  "NSAutoreleasePool", "NSBlockOperation", "NSBundle", "NSCache", "NSCachedURLResponse",
  "NSCalendar", "NSCharacterSet", "NSClassDescription", "NSCloneCommand", "NSCloseCommand",
  "NSCoder", "NSComparisonPredicate", "NSCompoundPredicate", "NSCondition", "NSConditionLock",
  "NSConnection", "NSCountCommand", "NSCountedSet", "NSCreateCommand", "NSData", "NSDataDetector",
  "NSDate", "NSDateComponents", "NSDateFormatter", "NSDecimalNumber", "NSDecimalNumberHandler",
  "NSDeleteCommand", "NSDictionary", "NSDirectoryEnumerator", "NSDistantObject",
  "NSDistantObjectRequest", "NSDistributedLock", "NSDistributedNotificationCenter", "NSEnumerator",
  "NSError", "NSException", "NSExistsCommand", "NSExpression", "NSFileCoordinator", "NSFileHandle",
  "NSFileManager", "NSFileVersion", "NSFileWrapper", "NSFormatter", "NSGarbageCollector",
  "NSGetCommand", "NSHashTable", "NSHost", "NSHTTPCookie", "NSHTTPCookieStorage",
  "NSHTTPURLResponse", "NSIndexPath", "NSIndexSet", "NSIndexSpecifier", "NSInputStream",
  "NSInvocation", "NSInvocationOperation", "NSKeyedArchiver", "NSKeyedUnarchiver",
  "NSLinguisticTagger", "NSLocale", "NSLock", "NSLogicalTest", "NSMachBootstrapServer",
  "NSMachPort", "NSMapTable", "NSMessagePort", "NSMessagePortNameServer", "NSMetadataItem",
  "NSMetadataQuery", "NSMetadataQueryAttributeValueTuple", "NSMetadataQueryResultGroup",
  "NSMethodSignature", "NSMiddleSpecifier", "NSMoveCommand", "NSMutableArray",
  "NSMutableAttributedString", "NSMutableCharacterSet", "NSMutableData", "NSMutableDictionary",
  "NSMutableIndexSet", "NSMutableOrderedSet", "NSMutableSet", "NSMutableString",
  "NSMutableURLRequest", "NSNameSpecifier", "NSNetService", "NSNetServiceBrowser",
  "NSNotification", "NSNotificationCenter", "NSNotificationQueue", "NSNull", "NSNumber",
  "NSNumberFormatter", "NSOperation", "NSOperationQueue", "NSOrderedSet", "NSOrthography",
  "NSOutputStream", "NSPipe", "NSPointerArray", "NSPointerFunctions", "NSPort", "NSPortCoder",
  "NSPortMessage", "NSPortNameServer", "NSPositionalSpecifier", "NSPredicate", "NSProcessInfo",
  "NSPropertyListSerialization", "NSPropertySpecifier", "NSProtocolChecker", "NSProxy",
  "NSQuitCommand", "NSRandomSpecifier", "NSRangeSpecifier", "NSRecursiveLock",
  "NSRegularExpression", "NSRelativeSpecifier", "NSRunLoop", "NSScanner",
  "NSScriptClassDescription", "NSScriptCoercionHandler", "NSScriptCommand",
  "NSScriptCommandDescription", "NSScriptExecutionContext", "NSScriptObjectSpecifier",
  "NSScriptSuiteRegistry", "NSScriptWhoseTest", "NSSet", "NSSetCommand", "NSSocketPort",
  "NSSocketPortNameServer", "NSSortDescriptor", "NSSpecifierTest", "NSSpellServer", "NSStream",
  "NSString", "NSTask", "NSTextCheckingResult", "NSThread", "NSTimer", "NSTimeZone",
  "NSUbiquitousKeyValueStore", "NSUnarchiver", "NSUndoManager", "NSUniqueIDSpecifier", "NSURL",
  "NSURLAuthenticationChallenge", "NSURLCache", "NSURLConnection", "NSURLCredential",
  "NSURLCredentialStorage", "NSURLDownload", "NSURLHandle", "NSURLProtectionSpace",
  "NSURLProtocol", "NSURLRequest", "NSURLResponse", "NSUserAppleScriptTask", "NSUserAutomatorTask",
  "NSUserDefaults", "NSUserNotification", "NSUserNotificationCenter", "NSUserScriptTask",
  "NSUserUnixTask", "NSUUID", "NSValue", "NSValueTransformer", "NSWhoseSpecifier", "NSXMLDocument",
  "NSXMLDTD", "NSXMLDTDNode", "NSXMLElement", "NSXMLNode", "NSXMLParser", "NSXPCConnection",
  "NSXPCInterface", "NSXPCListener", "NSXPCListenerEndpoint", "NSCoding", "NSComparisonMethods",
  "NSConnectionDelegate", "NSCopying", "NSDecimalNumberBehaviors", "NSErrorRecoveryAttempting",
  "NSFastEnumeration", "NSFileManagerDelegate", "NSFilePresenter", "NSKeyedArchiverDelegate",
  "NSKeyedUnarchiverDelegate", "NSKeyValueCoding", "NSKeyValueObserving", "NSLocking",
  "NSMachPortDelegate", "NSMetadataQueryDelegate", "NSMutableCopying",
  "NSNetServiceBrowserDelegate", "NSNetServiceDelegate", "NSPortDelegate",
  "NSScriptingComparisonMethods", "NSScriptKeyValueCoding", "NSScriptObjectSpecifiers",
  "NSSecureCoding", "NSSpellServerDelegate", "NSStreamDelegate",
  "NSURLAuthenticationChallengeSender", "NSURLConnectionDataDelegate", "NSURLConnectionDelegate",
  "NSURLHandleClient", "NSURLProtocolClient", "NSUserNotificationCenterDelegate",
  "NSXMLParserDelegate", "NSXPCListenerDelegate", "NSXPCProxyCreating"]

end LogosHooks.DeclaredType
