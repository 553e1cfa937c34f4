import PrismGateway.Frontend.Handlers

namespace PrismGateway.Frontend

open PrismGateway.Lib

/-- The handlers under `app/api`, named by the directories that lead to them and by the method. -/
inductive Route where
  | adminConfigDiffGet
  | adminConfigGlobalApplyPost
  | adminConfigHistoryGet
  | adminConfigVersionsGet
  | adminModelsGet
  | authCallbackPost
  | authConfigGet
  | authLogoutPost
  | authMockPost
  | authMockDelete
  | authRefreshServerPost
  | authRefreshPost
  | authSessionGet
  | benchmarksBenchmarkIdGet
  | benchmarksModelsGet
  | benchmarksModelsDelete
  | benchmarksGet
  | benchmarksPost
  | benchmarksSummaryGet
  | budgetsBudgetIdGet
  | budgetsBudgetIdPatch
  | budgetsBudgetIdDelete
  | budgetsOverviewGet
  | budgetsGet
  | budgetsPost
  | budgetsTenantsTenantIdPatch
  | budgetsTenantsGet
  | dashboardGet
  | finopsApiKeysApiKeyIdUsageGet
  | finopsApiKeysRequestsGet
  | finopsApiKeysUsageGet
  | finopsBillingReportGet
  | finopsJwtSubsJwtSubUsageGet
  | finopsJwtSubsRequestsGet
  | finopsJwtSubsUsageGet
  | finopsTenantRequestStatsGet
  | finopsUsageSummariesGet
  | globalConfigChangesGet
  | globalConfigGet
  | globalConfigPatch
  | healthGet
  | logsAuditExportGet
  | logsAuditGet
  | modelCatalogProviderIdPut
  | modelCatalogProviderIdDelete
  | modelCatalogGet
  | modelCatalogPost
  | modelsModelIdGet
  | modelsModelIdPatch
  | modelsModelIdDelete
  | modelsGet
  | modelsPost
  | observabilityCostAnalyticsGet
  | observabilityLogsGet
  | observabilityMetricsGet
  | observabilityModelPerformanceGet
  | observabilityRealMetricsGet
  | observabilityRequestExplorerRequestIdReplayPost
  | observabilityRequestExplorerRequestIdRoutingGet
  | observabilityRequestExplorerGet
  | observabilityRouterPerformanceGet
  | observabilityRoutingInsightsGet
  | observabilitySemanticCacheGet
  | observabilitySemanticCorrelationGet
  | observabilitySemanticRoutingGet
  | providersProviderIdCredentialsPost
  | providersProviderIdGet
  | providersProviderIdPatch
  | providersGet
  | routeGroupsRouteGroupIdGet
  | routeGroupsRouteGroupIdPatch
  | routeGroupsRouteGroupIdDelete
  | routeGroupsGet
  | routeGroupsPost
  | routingReplayRequestIdPost
  | routingRequestsRequestIdRoutingGet
  | semanticAnchorsNamePatch
  | semanticAnchorsNameDelete
  | semanticAnchorsGet
  | semanticAnchorsPost
  | semanticCalibratePost
  | semanticRoutesNameGet
  | semanticRoutesNamePatch
  | semanticRoutesNameDelete
  | semanticRoutesGet
  | semanticRoutesPost
  | semanticSuggestPost
  | semanticTestPost
  | semanticThresholdGet
  | semanticThresholdPatch
  | settingsAuthKeycloakTestPost
  | settingsTestConnectionGet
  | systemHealthGet
  | tenantsTenantIdApiKeysKeyIdRevokePost
  | tenantsTenantIdApiKeysKeyIdRotatePost
  | tenantsTenantIdApiKeysCreatePost
  | tenantsTenantIdApiKeysGet
  | tenantsTenantIdBudgetPatch
  | tenantsTenantIdBudgetsStatusGet
  | tenantsTenantIdConfigPatch
  | tenantsTenantIdPiiTestConnectionPost
  | tenantsTenantIdGet
  | tenantsTenantIdDelete
  | tenantsTenantIdUsageGet
  | tenantsGet
  | tenantsPost
  | toolCatalogProviderIdPut
  | toolCatalogProviderIdDelete
  | toolCatalogGet
  | toolCatalogPost
  | toolRoutingTestPost
  | versionGet
  deriving DecidableEq

-- the handler that gets one semantic route asks for it with an empty PATCH
def Route.endpoint : Route → Endpoint
  | .adminConfigDiffGet => adminProxy fun _ req => do
      require (isSet (req.query "from_version") && isSet (req.query "to_version")) 400
        "from_version and to_version are required"
      return forwarding .get [.lit "/admin/config/diff"] 200
  | .adminConfigGlobalApplyPost => adminProxy fun _ req => do
      require (isFiniteNumber (prop (requestJsonOrEmpty req) "version")) 400
        "version (number) is required"
      return forwarding .post [.lit "/admin/config/global/apply"] 200
  | .adminConfigHistoryGet => sessionProxy (passed .get (fixed "/admin/config/history") 200)
  | .adminConfigVersionsGet => sessionProxy (passed .get (fixed "/admin/config/versions") 200)
  | .adminModelsGet => sessionProxy (passed .get (fixed "/admin/models") 200)
  | .authCallbackPost => .elsewhere fun _ req => do
      let body := requestJsonOrEmpty req
      demand !isNull body
      require (["code","verifier","client_id","redirect_uri"].all
        (fun name => truthy (prop body name))) 400 "Missing required fields"
      return keycloakToken
  | .authConfigGet => .bootstrap
  | .authLogoutPost => unanswered (.sent 200)
  | .authMockPost => unanswered (.sent 200)
  | .authMockDelete => unanswered (.sent 200)
  | .authRefreshServerPost => .elsewhere fun _ req => do
      require (isSet (req.cookie "admin_refresh_token")) 401 "No refresh token available"
      return keycloakToken
  | .authRefreshPost => .elsewhere fun env req => do
      let body := if isObject req.body then requestJsonOrEmpty req else .obj []
      let token := prop body "refresh_token"
      require (truthy token) 400 "Missing refresh_token"
      require (env.ownRefreshToken (token.getD .null)) 400
        "Refresh token does not match router-ui router realm context"
      return keycloakToken
  | .authSessionGet => unanswered (.sent 200)
  | .benchmarksBenchmarkIdGet =>
    adminProxy (passed .get (rawPath "/admin/benchmarks/" "benchmarkId" "") 200)
  | .benchmarksModelsGet => sessionProxy (passed .get (fixed "/admin/benchmarks/models") 200)
  | .benchmarksModelsDelete => sessionProxy (passed .delete (fixed "/admin/benchmarks/models") 200)
  | .benchmarksGet => adminProxy (passed .get (fixed "/admin/benchmarks") 200)
  | .benchmarksPost => adminProxy fun _ req => do
      let body ← requestFields req
      require (["tenant_id","models","prompts"].all (fun name => truthy (prop body name))) 400
        "Missing required fields: tenant_id, models, prompts"
      return forwarding .post [.lit "/admin/benchmarks"] 201
  | .benchmarksSummaryGet => adminProxy (passed .get (fixed "/admin/benchmarks/summary") 200)
  | .budgetsBudgetIdGet => adminProxy (passed .get (rawPath "/admin/budgets/" "budgetId" "") 200)
  | .budgetsBudgetIdPatch =>
    adminProxy (withBody .patch (rawPath "/admin/budgets/" "budgetId" "") 200)
  | .budgetsBudgetIdDelete =>
    adminProxy (passed .delete (rawPath "/admin/budgets/" "budgetId" "") 204)
  | .budgetsOverviewGet => adminProxy (passed .get (fixed "/admin/budgets/overview") 200)
  | .budgetsGet => adminProxy (passed .get (fixed "/admin/budgets") 200)
  | .budgetsPost => adminProxy fun _ req => do
      let body ← requestFields req
      require (["tenant_id","name","limit_usd","window_hours"].all
        (fun name => truthy (prop body name)) && (prop body "alert_threshold").isSome) 400
        "Missing required fields: tenant_id, name, limit_usd, window_hours, alert_threshold"
      return forwarding .post [.lit "/admin/budgets"] 201
  | .budgetsTenantsTenantIdPatch => sessionProxy (versioned "Missing required field: version"
      (fun req => tenantConfigPath (.str (req.param "tenantId"))))
  | .budgetsTenantsGet =>
    adminProxy fun _ _ => .ok (fetching .get [.lit "/admin/tenants"] tenantBudgets)
  | .dashboardGet => .proxy .anonymous (fun _ => .ok ()) fun _ _ => .ok
      (together [.lit "/admin/version"] [[.lit "/admin/tenants"],[.lit "/admin/models"],
        [.lit "/admin/providers"],[.lit "/admin/route-groups"],[.lit "/admin/features"],
        [.lit "/admin/benchmarks/models"]])
  | .finopsApiKeysApiKeyIdUsageGet =>
    adminProxy (passed .get (encodedPath "/admin/api-keys/" "apiKeyId" "/usage") 200)
  | .finopsApiKeysRequestsGet => adminProxy (passed .get (fixed "/admin/api-keys/requests") 200)
  | .finopsApiKeysUsageGet => adminProxy (passed .get (fixed "/admin/api-keys/usage") 200)
  | .finopsBillingReportGet => .download [.lit "/admin/billing/report.csv"]
  | .finopsJwtSubsJwtSubUsageGet =>
    adminProxy (passed .get (encodedPath "/admin/jwt-subs/" "jwtSub" "/usage") 200)
  | .finopsJwtSubsRequestsGet => adminProxy (passed .get (fixed "/admin/jwt-subs/requests") 200)
  | .finopsJwtSubsUsageGet => adminProxy (passed .get (fixed "/admin/jwt-subs/usage") 200)
  | .finopsTenantRequestStatsGet => adminProxy (withTenant .get (fixed "/admin/requests/stats"))
  | .finopsUsageSummariesGet => adminProxy fun _ req => do
      require (isSet (req.query "month")) 400 "Missing required query param: month (YYYY-MM)"
      return fetching .get [.lit "/admin/tenants"] usageSummaries
  | .globalConfigChangesGet => sessionProxy (passed .get (fixed "/admin/config/global/changes") 200)
  | .globalConfigGet => sessionProxy (passed .get (fun _ => globalConfigPath) 200)
  | .globalConfigPatch => sessionProxy fun _ req => do
      let body ← requestFields req
      require (truthy (prop body "config") && isNumber (prop body "version")) 400
        "Missing required fields: config and version"
      return forwarding .patch globalConfigPath 200
  | .healthGet => unanswered (.sent 200)
  | .logsAuditExportGet => .download [.lit "/admin/audit/requests/export.csv"]
  | .logsAuditGet => sessionProxy (passed .get (fixed "/admin/audit/requests") 200)
  | .modelCatalogProviderIdPut =>
    adminProxy (withBody .put (catalogPath "/admin/model-catalog/") 200)
  | .modelCatalogProviderIdDelete =>
    adminProxy (passed .delete (catalogPath "/admin/model-catalog/") 204)
  | .modelCatalogGet => adminProxy (passed .get (fixed "/admin/model-catalog") 200)
  | .modelCatalogPost => adminProxy (withBody .post (fixed "/admin/model-catalog") 201)
  | .modelsModelIdGet => adminProxy fun _ req =>
      .ok (fetching .get [.lit "/admin/models"] (getModel (req.param "modelId")))
  | .modelsModelIdPatch => adminProxy fun _ req => do
      let body ← requestJson req
      return fetching .get globalConfigPath (updateModel (.str (req.param "modelId")) body)
  | .modelsModelIdDelete => adminProxy fun _ req =>
      .ok (fetching .get globalConfigPath (deleteModel (req.param "modelId")))
  | .modelsGet => adminProxy (passed .get (fixed "/admin/models") 200)
  | .modelsPost => adminProxy fun _ req => do
      let body ← requestFields req
      require (truthy (prop body "id") && truthy (prop body "provider")) 400
        "Missing required fields: id and provider"
      return fetching .get globalConfigPath (createModel body)
  | .observabilityCostAnalyticsGet =>
    sessionProxy (passed .get (fixed "/admin/observability/cost-analytics") 200)
  | .observabilityLogsGet => sessionProxy (passed .get (fixed "/admin/requests/recent") 200)
  | .observabilityMetricsGet => sessionProxy (passed .get (fixed "/admin/requests/stats") 200)
  | .observabilityModelPerformanceGet =>
    sessionProxy (passed .get (fixed "/admin/benchmarks/models") 200)
  | .observabilityRealMetricsGet => sessionProxy fun _ req =>
      let tenantId := if isSet (req.query "tenant_id") then (req.query "tenant_id").getD ""
        else "tenant_a"
      .ok (together [.lit "/admin/tenants/",.raw (.str tenantId),.lit "/usage/summary"]
        [[.lit "/admin/tenants/",.raw (.str tenantId),.lit "/models/stats"]])
  | .observabilityRequestExplorerRequestIdReplayPost =>
    .proxy .adminBearer decodableRequestId fun _ req =>
      .ok (forwarding .post [.lit "/admin/replay/",decodedRequestId req] 200)
  | .observabilityRequestExplorerRequestIdRoutingGet =>
    .proxy .adminBearer decodableRequestId fun _ req =>
      .ok (forwarding .get [.lit "/admin/requests/",decodedRequestId req,.lit "/routing"] 200)
  | .observabilityRequestExplorerGet =>
    adminProxy (passed .get (fixed "/admin/requests/recent") 200)
  | .observabilityRouterPerformanceGet =>
    adminProxy (passed .get (fixed "/admin/router/performance") 200)
  | .observabilityRoutingInsightsGet => adminProxy fun _ _ =>
      .ok (together [.lit "/admin/requests/stats"] [[.lit "/admin/requests"]])
  | .observabilitySemanticCacheGet =>
    adminProxy (passed .get (fixed "/admin/observability/semantic-cache") 200)
  | .observabilitySemanticCorrelationGet =>
    adminProxy (passed .get (fixed "/admin/observability/semantic-correlation") 200)
  | .observabilitySemanticRoutingGet =>
    adminProxy (passed .get (fixed "/admin/observability/semantic-routing") 200)
  | .providersProviderIdCredentialsPost => sessionProxy fun _ req => do
      let body ← requestFields req
      let credentials := (prop body "credentials").getD .null
      require (truthy (prop body "credentials") && isNumber (prop body "version")) 400
        "Missing required fields: credentials and version"
      if req.param "providerId" = "bedrock" then
        require (trimmedText (prop credentials "aws_access_key_id") ≠ "") 400
          "AWS Access Key ID is required"
        require (trimmedText (prop credentials "aws_secret_access_key") ≠ "") 400
          "AWS Secret Access Key is required"
        require (trimmedText (prop credentials "aws_region") ≠ "") 400 "AWS Region is required"
      else
        require (truthy (prop credentials "api_key")) 400 "API key is required"
        demand (isString (prop credentials "api_key"))
        require (trimmedText (prop credentials "api_key") ≠ "") 400 "API key is required"
      return forwarding .patch globalConfigPath 200
  | .providersProviderIdGet => sessionProxy fun _ req =>
      .ok (fetching .get [.lit "/admin/providers"] (getProvider (req.param "providerId")))
  | .providersProviderIdPatch => sessionProxy fun _ req => do
      let body ← requestFields req
      require (truthy (prop body "config") && isNumber (prop body "version")) 400
        "Missing required fields: config and version"
      return forwarding .patch globalConfigPath 200
  | .providersGet => sessionProxy (passed .get (fixed "/admin/providers") 200)
  | .routeGroupsRouteGroupIdGet => adminProxy fun _ req => do
      let tenantId ← requiredQuery req "tenantId"
      return fetching .get (tenantConfigPath (.str tenantId))
        (getRouteGroup tenantId (req.param "routeGroupId"))
  | .routeGroupsRouteGroupIdPatch => adminProxy fun _ req => do
      let tenantId ← requiredQuery req "tenantId"
      discard (requestFields req)
      return fetching .get (tenantConfigPath (.str tenantId))
        (putRouteGroup (.str tenantId) (.str (req.param "routeGroupId")) 200)
  | .routeGroupsRouteGroupIdDelete => adminProxy fun _ req => do
      let tenantId ← requiredQuery req "tenantId"
      return forwarding .delete [.lit "/admin/tenants/",.encoded (.str tenantId),
        .lit "/route-groups/",.encoded (.str (req.param "routeGroupId"))] 200
  | .routeGroupsGet => adminProxy fun _ req => do
      let tenantId ← requiredQuery req "tenantId"
      return forwarding .get (tenantConfigPath (.str tenantId)) 200
  | .routeGroupsPost => adminProxy fun _ req => do
      let body ← requestFields req
      let tenantId := (prop body "tenantId").getD .null
      require (truthy (prop body "tenantId")) 400 "tenantId is required"
      require (truthy (prop body "id")) 400 "Missing required field: id"
      demand (printable tenantId)
      return fetching .get (tenantConfigPath tenantId)
        (putRouteGroup tenantId ((prop body "id").getD .null) 201)
  | .routingReplayRequestIdPost =>
    adminProxy (passed .post (encodedPath "/admin/replay/" "requestId" "") 200)
  | .routingRequestsRequestIdRoutingGet =>
    adminProxy (passed .get (encodedPath "/admin/requests/" "requestId" "/routing") 200)
  | .semanticAnchorsNamePatch =>
    sessionProxy (withBody .patch (encodedPath "/v1/semantic/anchors/" "name" "") 200)
  | .semanticAnchorsNameDelete =>
    sessionProxy (passed .delete (encodedPath "/v1/semantic/anchors/" "name" "") 200)
  | .semanticAnchorsGet => sessionProxy (passed .get (fixed "/v1/semantic/anchors") 200)
  | .semanticAnchorsPost => sessionProxy (withBody .post (fixed "/v1/semantic/anchors") 200)
  | .semanticCalibratePost =>
    sessionProxy (withTenantIdFromRequest [.lit "/admin/semantic/anchors/calibrate"])
  | .semanticRoutesNameGet =>
    sessionProxy (withTenant .patch (encodedPath "/admin/semantic/routes/" "name" ""))
  | .semanticRoutesNamePatch =>
    sessionProxy (withTenant .patch (encodedPath "/admin/semantic/routes/" "name" ""))
  | .semanticRoutesNameDelete =>
    sessionProxy (withTenant .delete (encodedPath "/admin/semantic/routes/" "name" ""))
  | .semanticRoutesGet => sessionProxy (withTenant .get (fixed "/admin/semantic/routes"))
  | .semanticRoutesPost => sessionProxy (withTenantIdFromRequest [.lit "/admin/semantic/routes"])
  | .semanticSuggestPost =>
    sessionProxy (withTenantIdFromRequest [.lit "/admin/semantic/anchors/suggest"])
  | .semanticTestPost => sessionProxy (withTenantIdFromRequest [.lit "/admin/semantic/test"])
  | .semanticThresholdGet => sessionProxy fun _ req => do
      let tenantId ← requiredQuery req "tenant_id"
      return forwarding .get (tenantConfigPath (.str tenantId)) 200
  | .semanticThresholdPatch => sessionProxy fun _ req => do
      let body ← requestFields req
      let tenantId := (prop body "tenant_id").getD .null
      require (truthy (prop body "tenant_id") && isNumber (prop body "threshold_default")) 400
        "tenant_id and threshold_default are required"
      demand (printable tenantId)
      return forwarding .patch [.lit "/admin/tenants/",.raw tenantId,
        .lit "/semantic-threshold"] 200
  | .settingsAuthKeycloakTestPost => adminProxy fun _ req => do
      require (truthy (prop (requestJsonOrEmpty req) "jwks_url")) 400 "jwks_url is required"
      return forwarding .post [.lit "/admin/test-connection"] 200
  | .settingsTestConnectionGet => .elsewhere fun _ req => do
      require (isSet (req.query "endpoint")) 400 "Missing endpoint"
      require (!(trim ((req.query "endpoint").getD "")).all (· = '/')) 400 "Invalid endpoint"
      return (.get,[.raw (.str ((req.query "endpoint").getD "")),.lit "/healthz"])
  | .systemHealthGet => adminProxy (passed .get (fixed "/admin/health/system") 200)
  | .tenantsTenantIdApiKeysKeyIdRevokePost =>
    sessionProxy (passed .post (tenantKeyPath "/revoke") 200)
  | .tenantsTenantIdApiKeysKeyIdRotatePost =>
    sessionProxy (passed .post (tenantKeyPath "/rotate") 200)
  | .tenantsTenantIdApiKeysCreatePost => sessionProxy (withBody .post (tenantPath "/api-keys") 200)
  | .tenantsTenantIdApiKeysGet => tenantProxy (passed .get (tenantPath "/api-keys") 200)
  | .tenantsTenantIdBudgetPatch => sessionProxy (versioned
      "version is required for optimistic concurrency control"
      (fun req => tenantConfigPath (.str (req.param "tenantId"))))
  | .tenantsTenantIdBudgetsStatusGet => tenantProxy (passed .get (tenantPath "/budgets/status") 200)
  | .tenantsTenantIdConfigPatch => sessionProxy fun _ req => do
      let body ← requestFields req
      let version := (prop body "version").getD .null
      require (prop body "version").isSome 400
        "version is required for optimistic concurrency control"
      require (truthy (prop body "patch") && isObject (prop body "patch")) 400
        "patch is required and must be an object"
      demand (!isNull version && printable version)
      return forwarding .patch (tenantConfigPath (.str (req.param "tenantId"))) 200
  | .tenantsTenantIdPiiTestConnectionPost => sessionProxy fun _ req => do
      let body ← requestJson req
      require (truthy (prop body "request_url") && truthy (prop body "response_url") &&
        isNumber (prop body "timeout_ms")) 400 "Missing or invalid payload"
      return forwarding .post (tenantPath "/pii/test-connection" req) 200
  | .tenantsTenantIdGet =>
    tenantProxy (passed .get (fun req => tenantConfigPath (.str (req.param "tenantId"))) 200)
  | .tenantsTenantIdDelete => tenantProxy (passed .delete (tenantPath "") 204)
  | .tenantsTenantIdUsageGet => tenantProxy (passed .get (tenantPath "/usage") 200)
  | .tenantsGet => sessionProxy (passed .get (fixed "/admin/tenants") 200)
  | .tenantsPost => sessionProxy fun _ req => do
      let body ← requestFields req
      require (truthy (prop body "tenant_id")) 400 "tenant_id is required"
      require (truthy (prop body "environment") &&
        ["DEV","STAGING","PROD"].any (fun name =>
          namedEnvironment ((prop body "environment").getD .null) = some name)) 400
        "environment is required"
      return forwarding .post [.lit "/admin/tenants"] 201
  | .toolCatalogProviderIdPut => adminProxy (withBody .put (catalogPath "/admin/tool-catalog/") 200)
  | .toolCatalogProviderIdDelete =>
    adminProxy (passed .delete (catalogPath "/admin/tool-catalog/") 204)
  | .toolCatalogGet => adminProxy (passed .get (fixed "/admin/tool-catalog") 200)
  | .toolCatalogPost => adminProxy (withBody .post (fixed "/admin/tool-catalog") 201)
  | .toolRoutingTestPost => sessionProxy fun env req => do
      let tenantId ← requiredQuery req "tenant_id"
      require (isSet env.gatewayBaseUrl) 500 "Missing GATEWAY_BASE_URL"
      require req.body.isSome 400 "Invalid request body"
      return toolRoutingTest tenantId
  | .versionGet => unanswered (.sent 200)

end PrismGateway.Frontend
